import LabelFilter.Proofs.Filter.Layout
import LabelFilter.Proofs.Filter.Stated
import LabelFilter.Proofs.Sql.Evaluation

/-!
# Predicates as expressions

What the text of a predicate is to the grammar of SQL. Each condition is one expression that
stands by itself among conjuncts and alternatives, and a predicate is the conjunction of the
expression for the metric, of those of the filter (or of their disjunction in parentheses) and of
those of the implied items.

## Main definitions

* `Condition.expr`, `Compiler.expr` — the expressions

## Main results

* `Condition.derives_expr` — a condition is read as its expression, among connectives
* `Compiler.read_assemble` — a predicate is read as its expression
-/

namespace LabelFilter

open Sql (Expr Derives Piece Token Mark tokensOf textTokens keywords)
open Sql.Piece (call joined)

/-! ### Conditions -/

namespace Dialect

/-- The text of a label, or the empty text. -/
def labelExpr (d : Dialect) (key : String) : Expr :=
  match d with
  | .clickhouse => .call "JSONExtractString" (.column labelsColumn) (.text key)
  | .duckdb =>
    .call "coalesce" (.call "json_extract_string" (.column labelsColumn) (.text (labelPath key)))
      (.text "")

/-- Whether there is a label. -/
def hasLabelExpr (d : Dialect) (key : String) : Expr :=
  match d with
  | .clickhouse => .call "JSONHas" (.column labelsColumn) (.text key)
  | .duckdb => .call "json_exists" (.column labelsColumn) (.text (labelPath key))

/-- A comparison with a `%` and `_` pattern. -/
def likeExpr (d : Dialect) (label : Expr) (pattern : String) (negated : Bool) : Expr :=
  match d with
  | .clickhouse => .call (if negated then "notLike" else "like") label (.text pattern)
  | .duckdb => .compare .like negated label (.text pattern)

/-- A comparison with a regular expression. -/
def regexExpr (d : Dialect) (label : Expr) (pattern : String) (negated : Bool) : Expr :=
  let test := Expr.call d.regexFunction label (.text pattern)
  if negated then .not test else test

end Dialect

/-- A condition as an expression. -/
def Condition.expr (d : Dialect) (c : Condition) : Expr :=
  let label := d.labelExpr c.key
  match c.test with
  | .equal v => .compare .equal false label (.text v)
  | .notEqual v => .compare .equal true label (.text v)
  | .oneOf vs => .compare .member false label (.list vs)
  | .noneOf vs => .compare .member true label (.list vs)
  | .like p => d.likeExpr label p false
  | .notLike p => d.likeExpr label p true
  | .regex p => d.regexExpr label p false
  | .notRegex p => d.regexExpr label p true
  | .present => d.hasLabelExpr c.key
  | .absent => .not (d.hasLabelExpr c.key)

section

variable {ts : List Token} {ps qs : List Piece} {e a b : Expr}

theorem derives_disjunction (h : Derives .operand ts e) : Derives .disjunction ts e :=
  h.operand.comparison.negation.conjunction

theorem derives_call {f : String} (hf : f ∉ keywords) (ha : Derives .operand (tokensOf ps) a)
    (hb : Derives .operand (tokensOf qs) b) :
    Derives .operand (tokensOf (call f ps qs)) (.call f a b) := by
  have := Derives.call hf (derives_disjunction ha) (derives_disjunction hb)
  simpa [call] using this

theorem derives_labels : Derives .operand (tokensOf [.word labelsColumn]) (.column labelsColumn) :=
  .column (by decide)

namespace Dialect

theorem derives_labelExpr (d : Dialect) (key : String) :
    Derives .operand (tokensOf (d.extractPieces key)) (d.labelExpr key) := by
  cases d with
  | clickhouse => exact derives_call (by decide) derives_labels (.text _)
  | duckdb =>
    exact derives_call (by decide) (derives_call (by decide) derives_labels (.text _)) (.text _)

theorem derives_hasLabelExpr (d : Dialect) (key : String) :
    Derives .operand (tokensOf (d.hasLabelPieces key)) (d.hasLabelExpr key) := by
  cases d <;> exact derives_call (by decide) derives_labels (.text _)

theorem derives_likeExpr (d : Dialect) (h : Derives .operand (tokensOf ps) a) (pattern : String)
    (negated : Bool) :
    Derives .comparison (tokensOf (d.likePieces ps pattern negated))
      (d.likeExpr a pattern negated) := by
  have htext : Derives .operand (tokensOf [.text pattern]) (.text pattern) := .text _
  cases d with
  | clickhouse =>
    refine .operand (derives_call ?_ h htext)
    cases negated <;> decide
  | duckdb =>
    have := @Derives.compare .like negated _ _ _ _ (by decide) h htext
    cases negated <;> simpa [likePieces, likeExpr, Sql.Relation.tokens] using this

theorem derives_regexExpr (d : Dialect) (h : Derives .operand (tokensOf ps) a) (pattern : String)
    (negated : Bool) :
    Derives .negation (tokensOf (d.regexPieces ps pattern negated))
      (d.regexExpr a pattern negated) := by
  have hcall : Derives .negation (tokensOf (call d.regexFunction ps [.text pattern]))
      (.call d.regexFunction a (.text pattern)) :=
    .comparison (.operand (derives_call (by cases d <;> decide) h (.text _)))
  cases negated with
  | false => exact hcall
  | true => exact .not hcall

/-- The tokens of a list: its literals in the brackets of the dialect. -/
theorem tokensOf_listPieces (d : Dialect) (values : List String) :
    ∃ m m', Sql.isBracketPair m m' = true ∧
      tokensOf (d.listPieces values) = .mark m :: (textTokens values ++ [.mark m']) := by
  have htexts : ∀ sep : List Piece, tokensOf sep = [.mark .comma] →
      tokensOf (sep.intercalate (values.map fun v => [Piece.text v])) = textTokens values := by
    intro sep hsep
    rw [Sql.tokensOf_intercalate, hsep, textTokens, List.map_map]
    rfl
  cases d with
  | clickhouse =>
    exact ⟨.openBracket, .closeBracket, rfl, by simp [listPieces, htexts [.mark .comma] rfl]⟩
  | duckdb =>
    exact ⟨.openParen, .closeParen, rfl, by simp [listPieces, htexts [.mark .comma, .blank] rfl]⟩

/-- A list is read in the brackets of the dialect. -/
theorem derives_member (d : Dialect) (h : Derives .operand (tokensOf ps) a) {vs : List String}
    (hvs : vs ≠ []) (negated : Bool) :
    Derives .comparison
      (tokensOf ps ++ (Sql.Relation.member.tokens negated ++ tokensOf (d.listPieces vs)))
      (.compare .member negated a (.list vs)) := by
  obtain ⟨m, m', hm, htokens⟩ := d.tokensOf_listPieces vs
  rw [htokens, ← List.append_assoc]
  exact .member h hm hvs

end Dialect

/-- **A condition is read as its expression**, at the level of the members of a conjunction. -/
theorem Condition.derives_expr (d : Dialect) {c : Condition} (hc : c.test.IsStated) :
    Derives .negation (tokensOf (c.pieces d)) (c.expr d) := by
  obtain ⟨key, test⟩ := c
  have hlabel := d.derives_labelExpr key
  have hequal : ∀ negated v, Derives .negation
      (tokensOf (d.extractPieces key) ++ Sql.Relation.equal.tokens negated ++ [.text v])
      (.compare .equal negated (d.labelExpr key) (.text v)) := fun negated v =>
    .comparison (.compare (by decide) hlabel (.text v))
  cases test with
  | equal v => simpa [pieces, expr, Sql.Relation.tokens] using hequal false v
  | notEqual v => simpa [pieces, expr, Sql.Relation.tokens] using hequal true v
  | oneOf vs =>
    have := d.derives_member hlabel hc false
    simpa [pieces, expr, Sql.Relation.tokens] using this.comparison
  | noneOf vs =>
    have := d.derives_member hlabel hc true
    simpa [pieces, expr, Sql.Relation.tokens] using this.comparison
  | like p | notLike p => exact .comparison (d.derives_likeExpr hlabel p _)
  | regex p | notRegex p => exact d.derives_regexExpr hlabel p _
  | present => exact .comparison (.operand (d.derives_hasLabelExpr key))
  | absent => exact .not (.comparison (.operand (d.derives_hasLabelExpr key)))

end

/-! ### Predicates -/

namespace Compiler

/-- Alternatives. -/
def groupExpr : List Expr → Expr
  | [] => .list []
  | e :: es => .chain .or e es

/-- The condition that the metric has a name. -/
def metricExpr (metric : String) : Expr :=
  .compare .equal false (.column metricColumn) (.text metric)

/-- A predicate as an expression. -/
def expr (c : Compiler) (op : Combinator) (scope : Scope) (stated implied : List Condition) :
    Expr :=
  .chain .and (metricExpr scope.metric)
    (op.gather groupExpr ((kept scope stated).map (Condition.expr c.dialect)) ++
      implied.map (Condition.expr c.dialect))

theorem derives_metricExpr (metric : String) :
    Derives .negation (tokensOf (metricPieces metric)) (metricExpr metric) :=
  .comparison (@Derives.compare .equal false _ _ _ _ (by decide)
    (.column (w := metricColumn) (by decide)) (.text metric))

/-- Alternatives in parentheses are read as one member of a conjunction. -/
theorem derives_groupExpr {row : List Piece} {e : Expr} {rows : List (List Piece)} {es : List Expr}
    (h : Derives .negation (tokensOf row) e)
    (hs : List.Forall₂ (fun row e => Derives .negation (tokensOf row) e) rows es) :
    Derives .negation (tokensOf (groupPieces (row :: rows))) (groupExpr (e :: es)) := by
  have hchain := Sql.derives_chain_or h.negation
    (List.forall₂_map_left_iff.mpr (hs.imp fun _ _ => Derives.negation))
  have := hchain.paren.operand.comparison
  simpa [groupPieces, groupExpr, Sql.Piece.tokensOf_joined] using this

theorem derives_conditions (d : Dialect) {cs : List Condition} (h : ∀ c ∈ cs, c.test.IsStated) :
    List.Forall₂ (fun row e => Derives .negation (tokensOf row) e)
      (cs.map (Condition.pieces d)) (cs.map (Condition.expr d)) := by
  rw [List.forall₂_map_left_iff, List.forall₂_map_right_iff, List.forall₂_same]
  exact fun c hc => c.derives_expr d (h c hc)

/-- **A predicate is read as its expression.** -/
theorem read_assemble (c : Compiler) (op : Combinator) (scope : Scope)
    {stated implied : List Condition} (hs : ∀ cond ∈ stated, cond.test.IsStated)
    (hi : ∀ cond ∈ implied, cond.test.IsStated) :
    Sql.read c.dialect (c.assemble op scope stated implied) =
      some (c.expr op scope stated implied) := by
  have hkept := derives_conditions c.dialect fun cond (hcond : cond ∈ kept scope stated) =>
    hs cond (List.mem_filter.mp hcond).1
  have hmembers := List.rel_append (op.rel_gather (fun _ _ _ _ => derives_groupExpr) hkept)
    (derives_conditions c.dialect hi)
  refine Sql.read_eq_some (c.tokens_assemble op scope stated implied) (.conjunction ?_)
  have := Sql.derives_chain_and (derives_metricExpr scope.metric)
    (List.forall₂_map_left_iff.mpr hmembers)
  simpa [pieces, expr, Sql.Piece.tokensOf_joined] using this

end Compiler

end LabelFilter
