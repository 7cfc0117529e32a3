import LabelFilter.Filter.Predicate
import LabelFilter.Filter.Rule

/-!
# Compiling a filter

A filter is compiled for the series of one metric: the name of the metric, then the conditions of
the filter, then the conditions that the aggregation implies, all of which must hold. Items on
excluded keys must state conditions like all others, and are then left out.

## Main definitions

* `Scope` — the metric, the excluded keys and the aggregation of the query around a filter
* `Compiler` — a dialect and a table of rules
* `Compiler.predicate` — a filter as one SQL predicate
-/

namespace LabelFilter

/-- What a filter is compiled for. -/
structure Scope where
  metric : String
  /-- Items on these keys are left out. -/
  excluded : List String := []
  aggregation : Aggregation := .noop
  deriving Repr

/-- What filters are compiled with. -/
structure Compiler where
  dialect : Dialect := .clickhouse
  rules : RuleTable := []
  deriving Repr, Inhabited

/-- The column that holds the name of the metric. -/
def metricColumn : String := "metric_name"

/-- The conditions of a filter as conjuncts. Alternatives stand in parentheses, unless there is
only one. -/
def Combinator.conjuncts (op : Combinator) (fragments : List String) : List String :=
  match op, fragments with
  | .any, f :: g :: fs => ["(" ++ op.joiner.intercalate (f :: g :: fs) ++ ")"]
  | _, fs => fs

namespace Compiler

/-- The conditions of a filter, and those that the aggregation implies. The first item that
states none decides the error; the items of the filter come before the implied ones. -/
def conditions (c : Compiler) (filter : Filter) (scope : Scope) :
    Except ItemError (List Condition × List Condition) := do
  let stated ← filter.items.mapM Item.condition
  let implied ← (c.rules.implied scope.aggregation).mapM Item.condition
  return (stated, implied)

/-- The predicate of conditions that are known: the metric, the stated conditions on keys that
are not excluded, and the implied ones. -/
def assemble (c : Compiler) (op : Combinator) (scope : Scope) (stated implied : List Condition) :
    String :=
  let kept := stated.filter fun cond => !scope.excluded.contains cond.key
  let metric := metricColumn ++ " = " ++ c.dialect.literal scope.metric
  Combinator.all.joiner.intercalate
    (metric :: op.conjuncts (kept.map (Condition.sql c.dialect labelsColumn)) ++
      implied.map (Condition.sql c.dialect labelsColumn))

/-- A filter as one SQL predicate, which holds of the series of the metric that pass it. -/
def predicate (c : Compiler) (filter : Filter) (scope : Scope) : Except ItemError String := do
  let (stated, implied) ← c.conditions filter scope
  return c.assemble filter.combinator scope stated implied

end Compiler

end LabelFilter
