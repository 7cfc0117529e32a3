import LabelFilter.Proofs.Sql.Expression

/-!
# Evaluation of SQL expressions

What an expression is worth on a series, in the three-valued logic of SQL. A series has the name of
its metric and a map of labels. A value may be null, and null spreads: through comparisons and
patterns always, through the connectives unless the other side decides.

The dialects differ in their functions. Reading a missing label gives the empty text in the one and
null in the other, where the path to the label is a text that has to be read first. The two kinds
of patterns stand for whatever the engines make of them.

## Main definitions

* `Series`, `Patterns` — what an expression is evaluated on, and what patterns mean
* `Sql.Datum`, `Datum.not`, `Datum.and`, `Datum.or` — values and the connectives
* `Sql.Function`, `Dialect.functions` — the functions of the dialects
* `Expr.eval` — the value of an expression

## Main results

* `Expr.eval_chain_and`, `Expr.eval_chain_or` — chains of expressions that are true or false
-/

namespace LabelFilter

/-- A series: the name of its metric, and its labels. -/
structure Series where
  metric : String
  label : String → Option String

/-- What the two kinds of patterns mean: whether a text has the form of a pattern. -/
structure Patterns where
  like : String → String → Bool
  regex : String → String → Bool

namespace Sql

/-- Values. -/
inductive Datum where
  | null
  | truth (b : Bool)
  | text (s : String)
  | list (values : List String)
  /-- What a column of labels holds. -/
  | labels (label : String → Option String)

namespace Datum

/-- A text, or null in place of a missing one. -/
def ofText? : Option String → Datum
  | some s => .text s
  | none => .null

/-- Negation. -/
def not : Datum → Option Datum
  | .truth b => some (.truth !b)
  | .null => some .null
  | _ => none

/-- Conjunction: false if either side is, and otherwise null if either side is. -/
def and : Datum → Datum → Option Datum
  | .truth a, .truth b => some (.truth (a && b))
  | .truth a, .null | .null, .truth a => some (if a then .null else .truth false)
  | .null, .null => some .null
  | _, _ => none

/-- Disjunction: true if either side is, and otherwise null if either side is. -/
def or : Datum → Datum → Option Datum
  | .truth a, .truth b => some (.truth (a || b))
  | .truth a, .null | .null, .truth a => some (if a then .truth true else .null)
  | .null, .null => some .null
  | _, _ => none

/-- A relation between two texts. It is null where one of them is. -/
def onTexts (relation : String → String → Bool) : Datum → Datum → Option Datum
  | .text a, .text b => some (.truth (relation a b))
  | .null, .text _ | .text _, .null | .null, .null => some .null
  | _, _ => none

/-- Membership in a list. -/
def isIn : Datum → Datum → Option Datum
  | .text a, .list vs => some (.truth (vs.contains a))
  | .null, .list _ => some .null
  | _, _ => none

end Datum

/-- A comparison that is not negated. -/
def Relation.apply (p : Patterns) : Relation → Datum → Datum → Option Datum
  | .equal => Datum.onTexts (· == ·)
  | .like => Datum.onTexts p.like
  | .member => Datum.isIn

/-! ### Functions -/

/-- Functions with two arguments. -/
inductive Function where
  /-- The text of a label, empty if there is none. -/
  | extract
  /-- Whether there is a label. -/
  | has
  /-- The text of the label that a path selects, null if there is none. -/
  | extractAt
  /-- Whether there is a label that a path selects. -/
  | hasAt
  /-- The first argument, or the second one in place of null. -/
  | coalesce
  | like
  | notLike
  | regex

end Sql

open Sql (Function Datum)

/-- The functions of a dialect. -/
def Dialect.functions : Dialect → List (String × Function)
  | .clickhouse =>
    [("JSONExtractString", .extract), ("JSONHas", .has), ("like", .like), ("notLike", .notLike),
      ("match", .regex)]
  | .duckdb =>
    [("json_extract_string", .extractAt), ("json_exists", .hasAt), ("coalesce", .coalesce),
      ("regexp_matches", .regex)]

/-- The value of a column. -/
def Series.column (row : Series) : String → Option Datum
  | "metric_name" => some (.text row.metric)
  | "labels" => some (.labels row.label)
  | _ => none

namespace Sql

/-- The value of a function. -/
def Function.apply (p : Patterns) : Function → Datum → Datum → Option Datum
  | .extract, .labels label, .text key => some (.text ((label key).getD ""))
  | .has, .labels label, .text key => some (.truth (label key).isSome)
  | .extractAt, .labels label, .text path => do
    return .ofText? (label (← labelOfPath? path))
  | .hasAt, .labels label, .text path => do
    return .truth (label (← labelOfPath? path)).isSome
  | .coalesce, .null, b => some b
  | .coalesce, a, _ => some a
  | .like, a, b => Datum.onTexts p.like a b
  | .notLike, a, b => do (← Datum.onTexts p.like a b).not
  | .regex, a, b => Datum.onTexts p.regex a b
  | _, _, _ => none

/-! ### Expressions -/

namespace Expr

/-- The value of an expression on a series, if it has one: functions must be known, and values of
the kind that they take. -/
def eval (d : Dialect) (p : Patterns) (row : Series) : Expr → Option Datum
  | .column name => row.column name
  | .text s => some (.text s)
  | .list vs => some (.list vs)
  | .call f a b => do (← d.functions.lookup f).apply p (← a.eval d p row) (← b.eval d p row)
  | .compare r negated a b => do
    let truth ← r.apply p (← a.eval d p row) (← b.eval d p row)
    if negated then truth.not else return truth
  | .not e => do (← e.eval d p row).not
  | .and a b => do (← a.eval d p row).and (← b.eval d p row)
  | .or a b => do (← a.eval d p row).or (← b.eval d p row)

variable {d : Dialect} {p : Patterns} {row : Series}

theorem eval_text (s : String) : (text s).eval d p row = some (.text s) := rfl

theorem eval_list (vs : List String) : (list vs).eval d p row = some (.list vs) := rfl

theorem eval_call {f : String} {g : Function} {a b : Expr} {x y : Datum}
    (hf : d.functions.lookup f = some g) (ha : a.eval d p row = some x)
    (hb : b.eval d p row = some y) : (call f a b).eval d p row = g.apply p x y := by
  rw [eval, hf, ha, hb]
  rfl

/-- Whether an expression is true or false on a series, and which of the two. -/
def IsTruth (d : Dialect) (p : Patterns) (row : Series) (e : Expr) (b : Bool) : Prop :=
  e.eval d p row = some (.truth b)

theorem isTruth_not {e : Expr} {b : Bool} (h : IsTruth d p row e b) :
    IsTruth d p row (.not e) !b := by
  rw [IsTruth] at h ⊢
  rw [eval, h]
  rfl

theorem isTruth_compare {r : Relation} {a b : Expr} {x y : Datum} {truth : Bool}
    (ha : a.eval d p row = some x) (hb : b.eval d p row = some y)
    (h : r.apply p x y = some (.truth truth)) (negated : Bool) :
    IsTruth d p row (compare r negated a b) (negated ^^ truth) := by
  rw [IsTruth]
  rw [eval, ha, hb]
  cases negated <;> simp [h, Datum.not]

theorem eval_chain_and {e : Expr} {b : Bool} {es : List Expr} {bs : List Bool}
    (h : IsTruth d p row e b) (hs : List.Forall₂ (IsTruth d p row) es bs) :
    IsTruth d p row (chain .and e es) (b && bs.all id) := by
  induction hs generalizing e b with
  | nil => simpa [chain] using h
  | @cons e' b' es bs h' _ ih =>
    have hrest := ih h'
    rw [IsTruth] at h hrest ⊢
    rw [chain, eval, h, hrest]
    rfl

theorem eval_chain_or {e : Expr} {b : Bool} {es : List Expr} {bs : List Bool}
    (h : IsTruth d p row e b) (hs : List.Forall₂ (IsTruth d p row) es bs) :
    IsTruth d p row (chain .or e es) (b || bs.any id) := by
  induction hs generalizing e b with
  | nil => simpa [chain] using h
  | @cons e' b' es bs h' _ ih =>
    have hrest := ih h'
    rw [IsTruth] at h hrest ⊢
    rw [chain, eval, h, hrest]
    rfl

end Expr

end Sql

end LabelFilter
