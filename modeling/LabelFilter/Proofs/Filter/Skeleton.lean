import LabelFilter.Proofs.Filter.Layout
import LabelFilter.Proofs.Filter.Stated
import LabelFilter.Proofs.Sql.Skeleton

/-!
# What clients cannot change

The keys, values and patterns of a filter, the metric, the tags and the table of a sub-query may be
any texts, and the tokens of the sub-query are still the same up to the texts of literals and the
names of columns and tables. Nothing that a client writes adds, removes or joins tokens, so none of
it is read as a part of the query.

## Main definitions

* `ItemShape`, `Item.shape` — what the tokens of a condition depend on

## Main results

* `Condition.alike`, `Compiler.alike_selectPieces` — conditions and sub-queries of one shape
* `Compiler.skeleton_subQuery_eq` — two sub-queries of one shape have one skeleton
-/

namespace LabelFilter

open Sql (Alike Piece Token skeleton tokensOf)
open Sql.Piece (ofName call joined)
open List (Forall₂)

/-! ### Shapes -/

/-- How many values an operand lists. -/
def Operand.length : Option Operand → Nat
  | some (.list vs) => vs.length
  | _ => 0

/-- What the tokens of the condition of an item depend on. The operator decides what kind of
operand there is. -/
structure ItemShape where
  operator : Option Operator
  length : Nat
  excluded : Bool
  deriving DecidableEq, Repr

/-- The shape of an item among excluded keys. -/
def Item.shape (excluded : List String) (item : Item) : ItemShape where
  operator := Operator.ofToken? item.operator
  length := Operand.length item.operand
  excluded := excluded.contains item.key

/-- Tests by one operator, with lists of one length. -/
structure Test.SameShape (t t' : Test) : Prop where
  operator : t.operator = t'.operator
  length : Operand.length t.operand = Operand.length t'.operand

theorem Item.sameShape {item item' : Item} {c c' : Condition} {excluded excluded' : List String}
    (h : item.condition = .ok c) (h' : item'.condition = .ok c')
    (hshape : item.shape excluded = item'.shape excluded') :
    c.test.SameShape c'.test ∧ excluded.contains c.key = excluded'.contains c'.key := by
  obtain ⟨op, hop, htest, hkey⟩ := Item.condition_eq_ok_iff.mp h
  obtain ⟨op', hop', htest', hkey'⟩ := Item.condition_eq_ok_iff.mp h'
  simp only [shape, ItemShape.mk.injEq, hop, hop', Option.some.injEq] at hshape
  obtain ⟨rfl, hlength, hexcluded⟩ := hshape
  refine ⟨⟨?_, ?_⟩, hkey ▸ hkey' ▸ hexcluded⟩
  · rw [Test.operator_ofOperand? htest, Test.operator_ofOperand? htest']
  · rw [Test.operand_ofOperand? htest, Test.operand_ofOperand? htest', hlength]

/-- Items of one shape state conditions of one shape. -/
theorem States.sameShape {items items' : List Item} {cs cs' : List Condition}
    {excluded excluded' : List String} (h : States items cs) (h' : States items' cs')
    (hshape : items.map (Item.shape excluded) = items'.map (Item.shape excluded')) :
    Forall₂ (fun c c' => c.test.SameShape c'.test ∧
      excluded.contains c.key = excluded'.contains c'.key) cs cs' := by
  rw [States] at h h'
  induction h generalizing items' cs' with
  | nil =>
    cases List.map_eq_nil_iff.mp hshape.symm
    cases h'
    exact .nil
  | cons hc _ ih =>
    cases h' with
    | nil => cases hshape
    | cons hc' hs' =>
      obtain ⟨hhead, htail⟩ := List.cons_eq_cons.mp hshape
      exact .cons (Item.sameShape hc hc' hhead) (ih hs' htail)

/-! ### Conditions -/

section

variable {a a' b b' : List Piece}

theorem alike_call {f : String} (hf : (Token.word f).introducesName = false)
    (ha : Alike (tokensOf a) (tokensOf a')) (hb : Alike (tokensOf b) (tokensOf b')) :
    Alike (tokensOf (call f a b)) (tokensOf (call f a' b')) := by
  have := Alike.cons hf (.cons (t := .mark .openParen) rfl (ha.append (.cons (t := .mark .comma) rfl
    (hb.append (.cons (t := .mark .closeParen) rfl .nil)))))
  simpa [call] using this

theorem alike_labels : Alike (tokensOf [.word labelsColumn]) (tokensOf [.word labelsColumn]) :=
  .cons (by decide) .nil

/-- Rows of one length whose tokens are pairwise alike, with alike tokens between them. -/
theorem alike_intercalate (sep : List Piece) (hsep : Alike (tokensOf sep) (tokensOf sep))
    {rows rows' : List (List Piece)}
    (h : Forall₂ (fun row row' => Alike (tokensOf row) (tokensOf row')) rows rows') :
    Alike (tokensOf (sep.intercalate rows)) (tokensOf (sep.intercalate rows')) := by
  rw [Sql.tokensOf_intercalate, Sql.tokensOf_intercalate]
  exact hsep.intercalate (List.forall₂_map_left_iff.mpr (List.forall₂_map_right_iff.mpr h))

namespace Dialect

variable (d : Dialect)

theorem alike_extractPieces (key key' : String) :
    Alike (tokensOf (d.extractPieces key)) (tokensOf (d.extractPieces key')) := by
  cases d with
  | clickhouse => exact alike_call (by decide) alike_labels (.text _ _)
  | duckdb =>
    exact alike_call (by decide) (alike_call (by decide) alike_labels (.text _ _)) (.text _ _)

theorem alike_hasLabelPieces (key key' : String) :
    Alike (tokensOf (d.hasLabelPieces key)) (tokensOf (d.hasLabelPieces key')) := by
  cases d <;> exact alike_call (by decide) alike_labels (.text _ _)

/-- Lists of one length are alike. -/
theorem alike_listPieces {vs vs' : List String} (h : vs.length = vs'.length) :
    Alike (tokensOf (d.listPieces vs)) (tokensOf (d.listPieces vs')) := by
  have htexts : Forall₂ (fun row row' => Alike (tokensOf row) (tokensOf row'))
      (vs.map fun v => [Piece.text v]) (vs'.map fun v => [Piece.text v]) := by
    rw [List.forall₂_map_left_iff, List.forall₂_map_right_iff]
    exact List.forall₂_iff_zip.mpr ⟨h, fun _ => .text _ _⟩
  cases d with
  | clickhouse =>
    have hrow := alike_intercalate [.mark .comma] (.cons rfl .nil) htexts
    have := Alike.cons (t := .mark .openBracket) rfl
      (hrow.append (.cons (t := .mark .closeBracket) rfl .nil))
    simpa [listPieces] using this
  | duckdb =>
    have hrow := alike_intercalate [.mark .comma, .blank] (.cons rfl .nil) htexts
    have := Alike.cons (t := .mark .openParen) rfl
      (hrow.append (.cons (t := .mark .closeParen) rfl .nil))
    simpa [listPieces] using this

theorem alike_likePieces (h : Alike (tokensOf a) (tokensOf a')) (p p' : String) (negated : Bool) :
    Alike (tokensOf (d.likePieces a p negated)) (tokensOf (d.likePieces a' p' negated)) := by
  cases d with
  | clickhouse => cases negated <;> exact alike_call (by decide) h (.text _ _)
  | duckdb =>
    have htext : Alike [.word "LIKE", .text p] [.word "LIKE", .text p'] :=
      .cons (by decide) (.text _ _)
    cases negated with
    | false => simpa [likePieces] using h.append htext
    | true => simpa [likePieces] using h.append (.cons (t := .word "NOT") (by decide) htext)

theorem alike_regexPieces (h : Alike (tokensOf a) (tokensOf a')) (p p' : String)
    (negated : Bool) :
    Alike (tokensOf (d.regexPieces a p negated)) (tokensOf (d.regexPieces a' p' negated)) := by
  have hcall : Alike (tokensOf (call d.regexFunction a [.text p]))
      (tokensOf (call d.regexFunction a' [.text p'])) :=
    alike_call (by cases d <;> decide) h (.text _ _)
  cases negated with
  | false => exact hcall
  | true => exact .cons (by decide) hcall

end Dialect

/-- **Conditions of one shape are alike**, whatever their keys and values are. -/
theorem Condition.alike (d : Dialect) {c c' : Condition} (h : c.test.SameShape c'.test) :
    Alike (tokensOf (c.pieces d)) (tokensOf (c'.pieces d)) := by
  obtain ⟨key, test⟩ := c
  obtain ⟨key', test'⟩ := c'
  have hlabel := d.alike_extractPieces key key'
  have hequal : ∀ m v v', (Token.mark m).introducesName = false →
      Alike (tokensOf (d.extractPieces key) ++ [.mark m, .text v])
        (tokensOf (d.extractPieces key') ++ [.mark m, .text v']) := fun m v v' hm =>
    hlabel.append (.cons hm (.text v v'))
  have hmember : ∀ vs vs' : List String, vs.length = vs'.length →
      Alike (.word "IN" :: tokensOf (d.listPieces vs))
        (.word "IN" :: tokensOf (d.listPieces vs')) :=
    fun vs vs' hlength => .cons (by decide) (d.alike_listPieces hlength)
  have hnot : ∀ {ts us}, Alike ts us → Alike (.word "NOT" :: ts) (.word "NOT" :: us) :=
    .cons (by decide)
  cases test <;> cases test' <;> try cases h.operator
  case equal.equal v v' => simpa [pieces] using hequal .equal v v' (by decide)
  case notEqual.notEqual v v' => simpa [pieces] using hequal .notEqual v v' (by decide)
  case oneOf.oneOf vs vs' => simpa [pieces] using hlabel.append (hmember vs vs' h.length)
  case noneOf.noneOf vs vs' => simpa [pieces] using hlabel.append (hnot (hmember vs vs' h.length))
  case like.like p p' => exact d.alike_likePieces hlabel p p' false
  case notLike.notLike p p' => exact d.alike_likePieces hlabel p p' true
  case regex.regex p p' => exact d.alike_regexPieces hlabel p p' false
  case notRegex.notRegex p p' => exact d.alike_regexPieces hlabel p p' true
  case present.present => exact d.alike_hasLabelPieces key key'
  case absent.absent => exact hnot (d.alike_hasLabelPieces key key')

end

/-! ### Predicates and sub-queries -/

namespace Compiler

/-- Rows of pieces whose tokens are pairwise alike. -/
abbrev AlikeRows : List (List Piece) → List (List Piece) → Prop :=
  Forall₂ fun row row' => Alike (tokensOf row) (tokensOf row')

theorem alike_joined {w : String} (hw : (Token.word w).introducesName = false)
    {rows rows' : List (List Piece)} (h : AlikeRows rows rows') :
    Alike (tokensOf (joined w rows)) (tokensOf (joined w rows')) :=
  alike_intercalate [.blank, .word w, .blank] (.cons hw .nil) h

theorem alike_groupPieces {rows rows' : List (List Piece)} (h : AlikeRows rows rows') :
    Alike (tokensOf (groupPieces rows)) (tokensOf (groupPieces rows')) := by
  have := Alike.cons (t := .mark .openParen) rfl
    ((alike_joined (w := "OR") (by decide) h).append (.cons (t := .mark .closeParen) rfl .nil))
  simpa [groupPieces] using this

theorem alikeRows_conditions (d : Dialect) {cs cs' : List Condition}
    (h : Forall₂ (fun c c' => c.test.SameShape c'.test) cs cs') :
    AlikeRows (cs.map (Condition.pieces d)) (cs'.map (Condition.pieces d)) :=
  List.forall₂_map_left_iff.mpr <|
    List.forall₂_map_right_iff.mpr (h.imp fun _ _ => Condition.alike d)

variable (c : Compiler) {s s' : Scope} {stated stated' : List Condition}

theorem alike_pieces (op : Combinator)
    (h : Forall₂ (fun c c' => c.test.SameShape c'.test) (kept s stated) (kept s' stated'))
    (implied : List Condition) :
    Alike (tokensOf (c.pieces op s stated implied))
      (tokensOf (c.pieces op s' stated' implied)) := by
  have hmetric : Alike (tokensOf (metricPieces s.metric)) (tokensOf (metricPieces s'.metric)) :=
    .cons (t := .word metricColumn) (by decide) (.cons (t := .mark .equal) rfl (.text _ _))
  have hkept := op.rel_gather (fun _ _ _ _ h hs => alike_groupPieces (.cons h hs))
    (alikeRows_conditions c.dialect h)
  have himplied := alikeRows_conditions c.dialect
    (List.forall₂_same.mpr fun cond (_ : cond ∈ implied) => ⟨rfl, rfl⟩)
  exact alike_joined (by decide) (.cons hmetric (List.rel_append hkept himplied))

theorem nameForm_ofName (s : String) :
    ∃ t : Token, ofName s = .token t ∧ t.nameForm = .anyName := by
  rw [ofName]
  split <;> exact ⟨_, rfl, rfl⟩

theorem alikeRows_columns (a : Aggregation) {tags tags' : List String}
    (h : tags.length = tags'.length) : AlikeRows (c.columnRows a tags) (c.columnRows a tags') := by
  have htag : ∀ tag tag', Alike (tokensOf (tagPieces c.dialect tag))
      (tokensOf (tagPieces c.dialect tag')) := by
    intro tag tag'
    obtain ⟨t, ht, hname⟩ := nameForm_ofName tag
    obtain ⟨t', ht', hname'⟩ := nameForm_ofName tag'
    have := (c.dialect.alike_extractPieces tag tag').append
      (.name (t := .word "as") (by decide) hname hname' .nil)
    simpa [tagPieces, ht, ht'] using this
  have hword : ∀ w, (Token.word w).introducesName = false →
      Alike (tokensOf [.word w]) (tokensOf [.word w]) := fun w hw => .cons hw .nil
  refine List.rel_append ?_ (.cons (hword _ (by decide)) .nil)
  split
  · exact .cons (hword _ (by decide)) .nil
  · rw [List.forall₂_map_left_iff, List.forall₂_map_right_iff]
    exact List.forall₂_iff_zip.mpr ⟨h, fun _ => htag _ _⟩

theorem alike_selectPieces (source source' : SeriesTable) (a : Aggregation)
    {tags tags' : List String} (htags : tags.length = tags'.length) {ps ps' : List Piece}
    (h : Alike (tokensOf ps) (tokensOf ps')) :
    Alike (tokensOf (c.selectPieces source a tags ps))
      (tokensOf (c.selectPieces source' a tags' ps')) := by
  obtain ⟨database, hdatabase, hdbName⟩ := nameForm_ofName source.database
  obtain ⟨database', hdatabase', hdbName'⟩ := nameForm_ofName source'.database
  obtain ⟨table, htable, htableName⟩ := nameForm_ofName source.table
  obtain ⟨table', htable', htableName'⟩ := nameForm_ofName source'.table
  have hcolumns := alike_intercalate [.mark .comma, .blank] (.cons rfl .nil)
    (c.alikeRows_columns a htags)
  have hwhere := Alike.cons (t := .word "WHERE") (by decide) h
  have hfrom := Alike.name (t := .word "FROM") (by decide) hdbName hdbName'
    (Alike.name (t := .mark .dot) (by decide) htableName htableName' hwhere)
  have := Alike.cons (t := .word "SELECT") (by decide) (hcolumns.append hfrom)
  simpa [selectPieces, hdatabase, hdatabase', htable, htable'] using this

/-- **Two sub-queries of one shape have one skeleton**, whatever the keys, values, patterns,
metrics, tags and tables are: they differ in the texts of literals and in names only. -/
theorem skeleton_subQuery_eq {source source' : SeriesTable} {f f' : Filter}
    {tags tags' : List String} {a b : String} (h : c.subQuery source f s tags = .ok a)
    (h' : c.subQuery source' f' s' tags' = .ok b) (hop : f.combinator = f'.combinator)
    (haggregation : s.aggregation = s'.aggregation)
    (hitems : f.items.map (Item.shape s.excluded) = f'.items.map (Item.shape s'.excluded))
    (htags : tags.length = tags'.length) :
    ∃ ts us, Sql.tokens c.dialect a.toList = some ts ∧ Sql.tokens c.dialect b.toList = some us ∧
      skeleton ts = skeleton us := by
  obtain ⟨_, hpredicate, rfl⟩ := subQuery_eq_ok_iff.mp h
  obtain ⟨_, hpredicate', rfl⟩ := subQuery_eq_ok_iff.mp h'
  obtain ⟨stated, implied, hyields, rfl⟩ := predicate_eq_ok_iff.mp hpredicate
  obtain ⟨stated', implied', hyields', rfl⟩ := predicate_eq_ok_iff.mp hpredicate'
  have himplied : implied = implied' := hyields.implied.unique (haggregation ▸ hyields'.implied)
  have hstated := hyields.stated.sameShape hyields'.stated hitems
  have hkept : Forall₂ (fun c c' => c.test.SameShape c'.test) (kept s stated) (kept s' stated') :=
    (List.rel_filter (fun _ _ h => by simp only [h.2]) hstated).imp fun _ _ => And.left
  refine ⟨_, _, c.tokens_select source _ s tags stated implied,
    c.tokens_select source' _ s' tags' stated' implied', ?_⟩
  rw [← haggregation, ← hop, ← himplied]
  exact (c.alike_selectPieces source source' _ htags
    (c.alike_pieces f.combinator hkept implied)).skeleton_eq

/-- Quotes, comment signs, keywords and parts of a query stay inside of literals and names. -/
theorem skeleton_of_hostile_texts :
    ∃ ts us, Sql.tokens .duckdb
      ("SELECT coalesce(json_extract_string(labels, '$.\"job\"'), '') as job, fingerprint " ++
        "FROM db.series WHERE metric_name = 'up' AND " ++
        "coalesce(json_extract_string(labels, '$.\"env\"'), '') IN ('a', 'b')").toList = some ts ∧
      Sql.tokens .duckdb
      ("SELECT coalesce(json_extract_string(labels, '$.\"FROM\"'), '') as FROM, fingerprint " ++
        "FROM as.\"x\"\"; --\" WHERE metric_name = ''' AND ''''=''' AND " ++
        "coalesce(json_extract_string(labels, '$.\"''\\\"\"'), '') IN (''') OR (1=1', '\\')").toList
        = some us ∧
      skeleton ts = skeleton us :=
  @skeleton_subQuery_eq ⟨.duckdb, []⟩ ⟨"up", ["pod"], .sum⟩ ⟨"' AND ''='", ["a"], .sum⟩
    ⟨"db", "series"⟩ ⟨"as", "x\"; --"⟩
    ⟨.all, [⟨"env", some (.list ["a", "b"]), "IN"⟩, ⟨"pod", none, "EXISTS"⟩]⟩
    ⟨.all, [⟨"'\"", some (.list ["') OR (1=1", "\\"]), "in"⟩, ⟨"a", none, "exists"⟩]⟩
    ["job"] ["FROM"] _ _ rfl rfl rfl rfl (by decide) rfl

end Compiler

end LabelFilter
