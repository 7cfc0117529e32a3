import LabelFilter.Proofs.Sql.SubQuery
import LabelFilter.Proofs.Text.Spelling

/-!
# The names in a sub-query

A sub-query gives names to what it selects, and reads columns of its table by their names. A name of
both kinds can be taken in two ways where it stands in the condition: for the column of the table,
or for what is selected under it. And what comes out of a sub-query is told apart by names, so no
two columns should have the same one.

Which names are the same depends on the backend. ClickHouse compares names as they are written.
DuckDB pays no heed to the case of ASCII letters, and quotes around a name change nothing about
that: they only allow more characters in it.

## Main definitions

* `Dialect.SameName` — names that a backend takes for the same
* `Expr.columnNames` — the columns that an expression reads
* `Expr.under` — an expression whose names are those of selected columns first
* `Column.output?` — the name under which a column comes out
* `SubQuery.aliases`, `SubQuery.reads` — the names that are given, and those that are read
* `SubQuery.Unambiguous` — every name can be taken in one way

## Main results

* `Dialect.sameName_equivalence` — each name belongs to one class of names that are the same
* `Expr.under_eq_self_iff` — when it makes no difference which names come first
* `SubQuery.unambiguous_iff` — it is enough that the names that are given keep apart
-/

namespace LabelFilter

/-! ### Names of a backend -/

namespace Dialect

/-- Whether a backend takes two names for the same. -/
def SameName : Dialect → String → String → Prop
  | .clickhouse, name, name' => name = name'
  | .duckdb, name, name' => Text.SameLetters name name'

instance (d : Dialect) (name name' : String) : Decidable (d.SameName name name') :=
  match d with
  | .clickhouse => inferInstanceAs (Decidable (name = name'))
  | .duckdb => decidable_of_iff (Text.upper name = Text.upper name') Text.upper_eq_upper_iff

/-- Each name belongs to one class of names that are the same. -/
theorem sameName_equivalence (d : Dialect) : Equivalence d.SameName := by
  cases d with
  | clickhouse => exact eq_equivalence
  | duckdb =>
    have hupper : SameName .duckdb = fun name name' => Text.upper name = Text.upper name' :=
      funext₂ fun _ _ => propext Text.upper_eq_upper_iff.symm
    rw [hupper]
    exact eq_equivalence.comap Text.upper

end Dialect

namespace Sql

/-! ### Expressions -/

namespace Expr

/-- The columns that an expression reads. -/
def columnNames : Expr → List String
  | .column name => [name]
  | .text _ | .list _ => []
  | .not e => e.columnNames
  | .call _ a b | .compare _ _ a b | .and a b | .or a b => a.columnNames ++ b.columnNames

/-- What a name is given to, by the first of those who give it. -/
def given (d : Dialect) (aliases : List (String × Expr)) (name : String) : Option Expr :=
  (aliases.find? fun a => d.SameName a.1 name).map Prod.snd

/-- An expression in which the names of selected columns stand for what is selected. -/
def under (d : Dialect) (aliases : List (String × Expr)) : Expr → Expr
  | .column name => (given d aliases name).getD (.column name)
  | .text value => .text value
  | .list values => .list values
  | .call f a b => .call f (a.under d aliases) (b.under d aliases)
  | .compare r negated a b => .compare r negated (a.under d aliases) (b.under d aliases)
  | .not e => .not (e.under d aliases)
  | .and a b => .and (a.under d aliases) (b.under d aliases)
  | .or a b => .or (a.under d aliases) (b.under d aliases)

variable {d : Dialect} {aliases : List (String × Expr)} {e : Expr}

theorem exists_sameName_of_given {name : String} {x : Expr} (h : given d aliases name = some x) :
    ∃ name' ∈ aliases.map Prod.fst, d.SameName name' name := by
  obtain ⟨a, ha, -⟩ := Option.map_eq_some_iff.mp h
  have hsame : d.SameName a.1 name := by simpa using List.find?_some ha
  exact ⟨a.1, List.mem_map_of_mem (List.mem_of_find?_eq_some ha), hsame⟩

/-- **Which names come first** makes no difference if no name that is read is given to anything but
the column itself. -/
theorem under_eq_self_iff : e.under d aliases = e ↔
    ∀ name ∈ e.columnNames, ∀ x, given d aliases name = some x → x = .column name := by
  induction e with
  | column name => cases h : given d aliases name <;> simp [under, columnNames, h]
  | text value | list values => simp [under, columnNames]
  | not e ih => simpa [under, columnNames] using ih
  | call f a b iha ihb | compare r negated a b iha ihb | and a b iha ihb | or a b iha ihb =>
    simp only [under, columnNames, List.mem_append, or_imp, forall_and, ← iha, ← ihb]
    simp

theorem under_eq_self (h : ∀ name ∈ aliases.map Prod.fst, ∀ read ∈ e.columnNames,
    ¬d.SameName name read) : e.under d aliases = e := by
  refine under_eq_self_iff.mpr fun read hread x hx => ?_
  obtain ⟨name, hname, hsame⟩ := exists_sameName_of_given hx
  exact absurd hsame (h name hname read hread)

/-- A chain reads what its links read. -/
theorem mem_columnNames_chain {connective : Expr → Expr → Expr}
    (hconnective : ∀ a b, (connective a b).columnNames = a.columnNames ++ b.columnNames)
    {name : String} {es : List Expr} :
    name ∈ (chain connective e es).columnNames ↔ ∃ f ∈ e :: es, name ∈ f.columnNames := by
  induction es generalizing e with
  | nil => simp [chain]
  | cons f es ih => simp [chain, hconnective, ih]

end Expr

/-! ### Sub-queries -/

/-- The name under which a column comes out: the one that it is given, or its own. -/
def Column.output? : Column → Option String
  | ⟨_, some name⟩ => some name
  | ⟨.column name, none⟩ => some name
  | _ => none

namespace SubQuery

/-- The names that are given, and what they are given to. -/
def aliases (q : SubQuery) : List (String × Expr) :=
  q.columns.filterMap fun c => c.name.map (·, c.expression)

/-- The columns of the table that are read, by what is selected and by the condition. -/
def reads (q : SubQuery) (condition : Expr) : List String :=
  q.columns.flatMap (fun c => c.expression.columnNames) ++ condition.columnNames

/-- Every name of a sub-query can be taken in one way only. -/
structure Unambiguous (d : Dialect) (q : SubQuery) (condition : Expr) : Prop where
  /-- The columns that come out have names of their own. -/
  distinct : (q.columns.map Column.output?).Pairwise fun o o' => ¬Option.Rel d.SameName o o'
  /-- No name is given that is read. -/
  apart : ∀ name ∈ q.aliases.map Prod.fst, ∀ read ∈ q.reads condition, ¬d.SameName name read
  /-- The condition is about the columns of the table, whichever names come first. -/
  settled : condition.under d q.aliases = condition

/-- It is enough that the names that are given keep apart, from each other and from those that are
read. -/
theorem unambiguous_iff {d : Dialect} {q : SubQuery} {condition : Expr} :
    q.Unambiguous d condition ↔
      ((q.columns.map Column.output?).Pairwise fun o o' => ¬Option.Rel d.SameName o o') ∧
        ∀ name ∈ q.aliases.map Prod.fst, ∀ read ∈ q.reads condition, ¬d.SameName name read := by
  refine ⟨fun h => ⟨h.distinct, h.apart⟩, fun ⟨hdistinct, hapart⟩ => ⟨hdistinct, hapart, ?_⟩⟩
  exact Expr.under_eq_self fun name hname read hread =>
    hapart name hname read (List.mem_append_right _ hread)

end SubQuery

end Sql

end LabelFilter
