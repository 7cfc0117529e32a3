import LabelFilter.Filter.Rule
import LabelFilter.Json.Writing

/-!
# Writing filters and rules

Filters and rules as JSON without white space, with the fields in the order in which they are
declared. An item without a value is written without the field for it, a combinator by its word in
capital letters, and the fields of a rule's item stand among those of the rule.

## Main definitions

* `Operand.text`, `Item.members`, `Item.text` — a written item
* `Filter.text` — a written filter
* `Rule.text`, `RuleTable.text` — a written table of rules
-/

namespace LabelFilter

open Json (stringText listText objectText)

/-- An operand, as it is written. -/
def Operand.text : Operand → String
  | .single value => stringText value
  | .list values => listText (values.map stringText)

/-- The members of a written item. -/
def Item.members (item : Item) : List (String × String) :=
  ("key", stringText item.key) ::
    ((item.operand.map fun o => ("value", o.text)).toList ++ [("op", stringText item.operator)])

/-- An item, as it is written. -/
def Item.text (item : Item) : String := objectText item.members

/-- A filter, as it is written. -/
def Filter.text (filter : Filter) : String :=
  objectText [("op", stringText filter.combinator.token),
    ("items", listText (filter.items.map Item.text))]

/-- A rule, as it is written. -/
def Rule.text (rule : Rule) : String :=
  objectText (("aggregations", listText (rule.aggregations.map fun a => stringText a.token)) ::
    rule.item.members)

/-- A table of rules, as it is written. -/
def RuleTable.text (rules : RuleTable) : String := listText (rules.map Rule.text)

end LabelFilter
