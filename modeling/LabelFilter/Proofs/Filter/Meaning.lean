import LabelFilter.Proofs.Filter.Expression

/-!
# The meaning of a predicate

Which series a filter asks for, said of its items and without SQL, and that the predicate of the
filter is true on these series and false on all others. It is never null: a label that is missing
reads as the empty text in both dialects, so no negated test meets a null that would spread.

## Main definitions

* `Item.Holds`, `Filter.Holds` — what items and filters ask of labels
* `Compiler.Selects` — the series that a filter asks for

## Main results

* `Condition.isTruth_expr` — a condition is true or false on every series
* `predicate_true_iff_selects` — a predicate is true on the series that its filter asks for, and
  false on all others
-/

namespace LabelFilter

open Sql (Expr)

/-! ### What is asked for -/

/-- What an operator with its operand asks of a label. A missing label has the empty text. -/
def Operator.Holds (p : Patterns) (label : Option String) : Operator → Option Operand → Prop
  | .equal, some (.single v) => label.getD "" = v
  | .notEqual, some (.single v) => label.getD "" ≠ v
  | .oneOf, some (.list vs) => label.getD "" ∈ vs
  | .noneOf, some (.list vs) => label.getD "" ∉ vs
  | .like, some (.single v) => p.like (label.getD "") v = true
  | .notLike, some (.single v) => ¬ p.like (label.getD "") v = true
  | .regex, some (.single v) => p.regex (label.getD "") v = true
  | .notRegex, some (.single v) => ¬ p.regex (label.getD "") v = true
  | .present, none => ∃ v, label = some v
  | .absent, none => label = none
  | _, _ => False

/-- What an item asks of the labels of a series. -/
def Item.Holds (p : Patterns) (label : String → Option String) (item : Item) : Prop :=
  ∃ op, Operator.ofToken? item.operator = some op ∧ op.Holds p (label item.key) item.operand

/-- What a filter asks of the labels of a series: all of its items or one of them, and nothing if
no item is left. -/
def Filter.Holds (p : Patterns) (excluded : List String) (label : String → Option String)
    (f : Filter) : Prop :=
  match f.combinator with
  | .all => ∀ item ∈ f.keptItems excluded, item.Holds p label
  | .any => f.keptItems excluded = [] ∨ ∃ item ∈ f.keptItems excluded, item.Holds p label

/-- The series that a filter asks for: those of the metric that pass the filter and the items that
the aggregation implies. -/
structure Compiler.Selects (c : Compiler) (p : Patterns) (f : Filter) (s : Scope) (row : Series) :
    Prop where
  metric : row.metric = s.metric
  filter : f.Holds p s.excluded row.label
  implied : ∀ rule ∈ c.rules, s.aggregation ∈ rule.aggregations → rule.item.Holds p row.label

/-! ### Conditions -/

/-- Whether a test holds of a label. -/
def Test.holds (p : Patterns) (label : Option String) : Test → Bool
  | .equal v => label.getD "" == v
  | .notEqual v => !(label.getD "" == v)
  | .oneOf vs => vs.contains (label.getD "")
  | .noneOf vs => !vs.contains (label.getD "")
  | .like v => p.like (label.getD "") v
  | .notLike v => !p.like (label.getD "") v
  | .regex v => p.regex (label.getD "") v
  | .notRegex v => !p.regex (label.getD "") v
  | .present => label.isSome
  | .absent => !label.isSome

/-- Whether a condition holds of some labels. -/
def Condition.holds (p : Patterns) (label : String → Option String) (c : Condition) : Bool :=
  c.test.holds p (label c.key)

theorem Test.holds_iff {p : Patterns} {label : Option String} {op : Operator}
    {v : Option Operand} {t : Test} (h : Test.ofOperand? op v = some t) :
    op.Holds p label v ↔ t.holds p label = true := by
  unfold ofOperand? at h
  split at h <;> cases h <;> simp [Operator.Holds, holds, Option.isSome_iff_exists]

theorem Item.holds_iff (p : Patterns) (label : String → Option String) {item : Item}
    {c : Condition} (h : item.condition = .ok c) :
    item.Holds p label ↔ c.holds p label = true := by
  obtain ⟨op, hop, htest, hkey⟩ := Item.condition_eq_ok_iff.mp h
  rw [Holds, Condition.holds]
  rw [← hkey, ← Test.holds_iff htest]
  constructor
  · rintro ⟨op', hop', h'⟩
    cases hop.symm.trans hop'
    exact h'
  · exact fun h' => ⟨op, hop, h'⟩

section

variable (d : Dialect) (p : Patterns) (row : Series)

theorem eval_labels : (Expr.column labelsColumn).eval d p row = some (.labels row.label) := rfl

/-- The text of a label is never null. -/
theorem Dialect.eval_labelExpr (key : String) :
    (d.labelExpr key).eval d p row = some (.text ((row.label key).getD "")) := by
  cases d with
  | clickhouse =>
    exact Expr.eval_call (g := .extract) rfl (eval_labels _ p row) (Expr.eval_text key)
  | duckdb =>
    have hinner : (Expr.call "json_extract_string" (.column labelsColumn)
        (.text (labelPath key))).eval .duckdb p row = some (.ofText? (row.label key)) := by
      rw [Expr.eval_call (g := .extractAt) rfl (eval_labels _ p row) (Expr.eval_text _)]
      simp [Sql.Function.apply]
    refine (Expr.eval_call (g := .coalesce) rfl hinner (Expr.eval_text "")).trans ?_
    cases row.label key <;> rfl

theorem Dialect.isTruth_hasLabelExpr (key : String) :
    (d.hasLabelExpr key).IsTruth d p row (row.label key).isSome := by
  cases d with
  | clickhouse => exact Expr.eval_call (g := .has) rfl (eval_labels _ p row) (Expr.eval_text key)
  | duckdb =>
    refine (Expr.eval_call (g := .hasAt) rfl (eval_labels _ p row) (Expr.eval_text _)).trans ?_
    simp [Sql.Function.apply]

variable {d p row}

theorem Dialect.isTruth_likeExpr {label : Expr} {text : String}
    (h : label.eval d p row = some (.text text)) (pattern : String) (negated : Bool) :
    (d.likeExpr label pattern negated).IsTruth d p row (negated ^^ p.like text pattern) := by
  have hpattern : (Expr.text pattern).eval d p row = some (.text pattern) := Expr.eval_text pattern
  cases d with
  | clickhouse =>
    have hlike : (Expr.call "like" label (.text pattern)).IsTruth .clickhouse p row
        (p.like text pattern) := Expr.eval_call (f := "like") (g := .like) rfl h hpattern
    have hnot : (Expr.call "notLike" label (.text pattern)).IsTruth .clickhouse p row
        (!p.like text pattern) := Expr.eval_call (f := "notLike") (g := .notLike) rfl h hpattern
    cases negated with
    | false => simpa [likeExpr] using hlike
    | true => simpa [likeExpr] using hnot
  | duckdb => exact Expr.isTruth_compare (r := .like) h hpattern rfl negated

theorem Dialect.isTruth_regexExpr {label : Expr} {text : String}
    (h : label.eval d p row = some (.text text)) (pattern : String) (negated : Bool) :
    (d.regexExpr label pattern negated).IsTruth d p row (negated ^^ p.regex text pattern) := by
  have hcall : (Expr.call d.regexFunction label (.text pattern)).IsTruth d p row
      (p.regex text pattern) := by
    cases d <;> exact Expr.eval_call (g := .regex) rfl h (Expr.eval_text pattern)
  cases negated with
  | false => simpa [regexExpr] using hcall
  | true => simpa [regexExpr] using Expr.isTruth_not hcall

variable (d p row)

/-- A condition is true where it holds, and false where it does not. -/
theorem Condition.isTruth_expr (c : Condition) :
    (c.expr d).IsTruth d p row (c.holds p row.label) := by
  obtain ⟨key, test⟩ := c
  have hlabel := d.eval_labelExpr p row key
  have hpresent := d.isTruth_hasLabelExpr p row key
  have hequal : ∀ negated v, (Expr.compare .equal negated (d.labelExpr key) (.text v)).IsTruth d p
      row (negated ^^ ((row.label key).getD "" == v)) := fun negated v =>
    Expr.isTruth_compare hlabel (Expr.eval_text v) rfl negated
  have hmember : ∀ negated vs, (Expr.compare .member negated (d.labelExpr key) (.list vs)).IsTruth d
      p row (negated ^^ vs.contains ((row.label key).getD "")) := fun negated vs =>
    Expr.isTruth_compare hlabel (Expr.eval_list vs) rfl negated
  cases test with
  | equal v => simpa [expr, holds, Test.holds] using hequal false v
  | notEqual v => simpa [expr, holds, Test.holds] using hequal true v
  | oneOf vs => simpa [expr, holds, Test.holds] using hmember false vs
  | noneOf vs => simpa [expr, holds, Test.holds] using hmember true vs
  | like v => simpa [expr, holds, Test.holds] using Dialect.isTruth_likeExpr hlabel v false
  | notLike v => simpa [expr, holds, Test.holds] using Dialect.isTruth_likeExpr hlabel v true
  | regex v => simpa [expr, holds, Test.holds] using Dialect.isTruth_regexExpr hlabel v false
  | notRegex v => simpa [expr, holds, Test.holds] using Dialect.isTruth_regexExpr hlabel v true
  | present => exact hpresent
  | absent => exact Expr.isTruth_not hpresent

end

/-! ### Predicates -/

theorem Combinator.all_gather_any (op : Combinator) (bs : List Bool) :
    (op.gather (·.any id) bs).all id = true ↔
      match op with
      | .all => ∀ b ∈ bs, b = true
      | .any => bs = [] ∨ ∃ b ∈ bs, b = true := by
  match op, bs with
  | .all, [] | .all, [_] | .all, _ :: _ :: _ => simp [gather]
  | .any, [] | .any, [_] | .any, _ :: _ :: _ => simp [gather]

namespace Compiler

variable {c : Compiler} {f : Filter} {s : Scope} {stated implied : List Condition}

/-- The conditions that are left hold together or one of them does, as the filter asks. -/
theorem Yields.filter_holds_iff (h : c.Yields f s stated implied) (p : Patterns)
    (label : String → Option String) :
    f.Holds p s.excluded label ↔
      (f.combinator.gather (·.any id) ((kept s stated).map (Condition.holds p label))).all id =
        true := by
  have hkept : States (f.keptItems s.excluded) (kept s stated) :=
    h.stated.filter fun key => !s.excluded.contains key
  have hnil : f.keptItems s.excluded = [] ↔ kept s stated = [] := by
    rw [← List.length_eq_zero_iff, hkept.length_eq, List.length_eq_zero_iff]
  have hholds := fun item cond => @Item.holds_iff p label item cond
  rw [Combinator.all_gather_any]
  rw [Filter.Holds]
  cases f.combinator with
  | all => simpa using forall_mem_iff_of_forall₂ hkept hholds
  | any =>
    have := exists_mem_iff_of_forall₂ hkept hholds
    simp [hnil, this]

/-- What the conditions of a predicate are worth together. -/
def holds (op : Combinator) (p : Patterns) (s : Scope) (stated implied : List Condition)
    (row : Series) : Bool :=
  row.metric == s.metric &&
    (op.gather (·.any id) ((kept s stated).map (Condition.holds p row.label)) ++
      implied.map (Condition.holds p row.label)).all id

theorem Yields.selects_iff (h : c.Yields f s stated implied) (p : Patterns) (row : Series) :
    c.Selects p f s row ↔ holds f.combinator p s stated implied row = true := by
  have hfilter := h.filter_holds_iff p row.label
  have himplied : (∀ rule ∈ c.rules, s.aggregation ∈ rule.aggregations →
      rule.item.Holds p row.label) ↔
      (implied.map (Condition.holds p row.label)).all id = true := by
    have := forall_mem_iff_of_forall₂ h.implied fun item cond =>
      @Item.holds_iff p row.label item cond
    rw [List.all_map, List.all_eq_true]
    refine Iff.trans ?_ this
    simp only [RuleTable.implied, List.forall_mem_map, List.mem_filter, List.contains_iff_mem,
      and_imp]
  rw [holds, List.all_append, Bool.and_eq_true, Bool.and_eq_true, beq_iff_eq, ← hfilter,
    ← himplied]
  exact ⟨fun ⟨h₁, h₂, h₃⟩ => ⟨h₁, h₂, h₃⟩, fun ⟨h₁, h₂, h₃⟩ => ⟨h₁, h₂, h₃⟩⟩

theorem isTruth_conditions (d : Dialect) (p : Patterns) (row : Series) (cs : List Condition) :
    List.Forall₂ (Expr.IsTruth d p row) (cs.map (Condition.expr d))
      (cs.map (Condition.holds p row.label)) := by
  rw [List.forall₂_map_left_iff, List.forall₂_map_right_iff, List.forall₂_same]
  exact fun cond _ => cond.isTruth_expr d p row

theorem isTruth_expr (c : Compiler) (op : Combinator) (p : Patterns) (s : Scope)
    (stated implied : List Condition) (row : Series) :
    (c.expr op s stated implied).IsTruth c.dialect p row (holds op p s stated implied row) := by
  have hmetric : (metricExpr s.metric).IsTruth c.dialect p row (row.metric == s.metric) := by
    have hcolumn : (Expr.column metricColumn).eval c.dialect p row = some (.text row.metric) := rfl
    have := Expr.isTruth_compare (r := .equal) hcolumn (Expr.eval_text s.metric) rfl false
    simpa [metricExpr] using this
  refine Expr.eval_chain_and hmetric (List.rel_append ?_ (isTruth_conditions _ p row implied))
  exact op.rel_gather (fun _ _ _ _ h hs => Expr.eval_chain_or h hs)
    (isTruth_conditions _ p row (kept s stated))

/-- **A predicate is true on the series that its filter asks for, and false on all others.** It
is never null. -/
theorem predicate_true_iff_selects (h : c.predicate f s = .ok sql) :
    ∃ e, Sql.read c.dialect sql = some e ∧ ∀ p row,
      (c.Selects p f s row → e.eval c.dialect p row = some (.truth true)) ∧
      (¬ c.Selects p f s row → e.eval c.dialect p row = some (.truth false)) := by
  obtain ⟨stated, implied, hyields, rfl⟩ := predicate_eq_ok_iff.mp h
  refine ⟨c.expr f.combinator s stated implied,
    c.read_assemble _ s hyields.stated.isStated hyields.implied.isStated, fun p row => ?_⟩
  have heval := c.isTruth_expr f.combinator p s stated implied row
  rw [hyields.selects_iff, Bool.not_eq_true]
  exact ⟨fun hb => hb ▸ heval, fun hb => hb ▸ heval⟩

/-- A series without labels passes a negated alternative. Whether it passes a negated implied item
depends on what the pattern makes of the empty text. -/
theorem predicate_of_missing_labels :
    ∃ e, Sql.read .duckdb
        ("metric_name = 'up' AND (coalesce(json_extract_string(labels, '$.\"env\"'), '') != " ++
          "'o''brien' OR json_exists(labels, '$.\"env\"')) AND " ++
          "coalesce(json_extract_string(labels, '$.\"job\"'), '') NOT LIKE '%'") = some e ∧
      ∀ like regex, e.eval .duckdb ⟨like, regex⟩ ⟨"up", fun _ => none⟩ =
        some (.truth !like "" "%") := by
  obtain ⟨e, hread, h⟩ := predicate_true_iff_selects
    (c := ⟨.duckdb, [⟨[.sum], ⟨"job", some (.single "%"), " Nlike "⟩⟩]⟩)
    (f := ⟨.any, [⟨"env", some (.single "o'brien"), "neq"⟩, ⟨"env", none, "EXISTS"⟩]⟩)
    (s := ⟨"up", ["pod"], .sum⟩) rfl
  refine ⟨e, hread, fun like regex => ?_⟩
  have henv := (@Item.holds_iff ⟨like, regex⟩ (fun _ => none)
    ⟨"env", some (.single "o'brien"), "neq"⟩ ⟨"env", .notEqual "o'brien"⟩ rfl).mpr rfl
  have hjob := @Item.holds_iff ⟨like, regex⟩ (fun _ => none)
    ⟨"job", some (.single "%"), " Nlike "⟩ ⟨"job", .notLike "%"⟩ rfl
  have hsel := h ⟨like, regex⟩ ⟨"up", fun _ => none⟩
  cases hlike : like "" "%" with
  | true =>
    refine hsel.2 fun hsel => ?_
    have hholds := hsel.implied ⟨[.sum], ⟨"job", some (.single "%"), " Nlike "⟩⟩
      (.head _) (.head _)
    have := hjob.mp hholds
    simp [Condition.holds, Test.holds, hlike] at this
  | false =>
    refine hsel.1 ⟨rfl, .inr ⟨_, .head _, henv⟩, ?_⟩
    rintro rule (_ | ⟨_, ⟨⟩⟩) -
    exact hjob.mpr (by simp [Condition.holds, Test.holds, hlike])

end Compiler

end LabelFilter
