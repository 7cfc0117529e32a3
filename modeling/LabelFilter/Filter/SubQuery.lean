import LabelFilter.Filter.Compiler

/-!
# The sub-query of a filter

The query around a filter joins against the fingerprints of the series that pass it. The
sub-query that finds them selects the labels as they are when the aggregation passes series
through, and one column for each grouping tag otherwise.

## Main definitions

* `SeriesTable` — where the series are kept
* `Compiler.columns`, `Compiler.select` — the sub-query around a predicate
* `Compiler.subQuery` — a filter as a sub-query
-/

namespace LabelFilter

/-- The table that holds the series. -/
structure SeriesTable where
  database : String
  table : String
  deriving DecidableEq, Repr

/-- The column that tells series apart. -/
def fingerprintColumn : String := "fingerprint"

namespace Compiler

/-- The columns of the sub-query, the fingerprint last. -/
def columns (c : Compiler) (a : Aggregation) (tags : List String) : List String :=
  (if a.passesThrough then [labelsColumn]
    else tags.map fun tag =>
      c.dialect.extract labelsColumn tag ++ " as " ++ c.dialect.identifier tag) ++
    [fingerprintColumn]

/-- The sub-query around a predicate. -/
def select (c : Compiler) (source : SeriesTable) (predicate : String) (a : Aggregation)
    (tags : List String) : String :=
  "SELECT " ++ ", ".intercalate (c.columns a tags) ++ " FROM " ++
    c.dialect.identifier source.database ++ "." ++ c.dialect.identifier source.table ++
    " WHERE " ++ predicate

/-- A filter as a sub-query. -/
def subQuery (c : Compiler) (source : SeriesTable) (filter : Filter) (scope : Scope)
    (tags : List String) : Except ItemError String := do
  let predicate ← c.predicate filter scope
  return c.select source predicate scope.aggregation tags

end Compiler

end LabelFilter
