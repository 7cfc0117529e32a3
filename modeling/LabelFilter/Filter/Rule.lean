import LabelFilter.Aggregation
import LabelFilter.Filter.Condition

/-!
# Implied items

Some aggregations imply items that no client states: a table of rules says which.

## Main definitions

* `Rule`, `RuleTable` — items and the aggregations that imply them
* `RuleTable.implied` — the items that an aggregation implies
* `RuleTable.check` — whether every item of a table states a condition
-/

namespace LabelFilter

/-- An item that some aggregations imply. -/
structure Rule where
  aggregations : List Aggregation
  item : Item
  deriving DecidableEq, Repr

/-- Rules, in the order in which their items are added. -/
abbrev RuleTable := List Rule

namespace RuleTable

/-- The items that an aggregation implies, in the order of the table and once for each rule. -/
def implied (rules : RuleTable) (a : Aggregation) : List Item :=
  (rules.filter fun r => r.aggregations.contains a).map Rule.item

/-- The error of the first rule whose item states no condition. -/
def check (rules : RuleTable) : Except ItemError Unit :=
  rules.forM fun r => r.item.condition.map fun _ => ()

end RuleTable

end LabelFilter
