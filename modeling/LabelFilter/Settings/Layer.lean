import LabelFilter.Filter.Rule
import LabelFilter.Sql.Dialect

/-!
# Layers of settings

Every source of settings, a file or the command line, sets some of them. Layers are put on top of
each other field by field.

## Main definitions

* `Layer` — the settings that one source sets
* `Layer.onTop` — one layer on top of another

## Main results

* `Layer.onTop_assoc`, `Layer.empty_onTop`, `Layer.onTop_empty` — layers form a monoid
-/

namespace LabelFilter

/-- The settings that one source sets. -/
structure Layer where
  host : Option String := none
  port : Option UInt16 := none
  dialect : Option Dialect := none
  database : Option String := none
  table : Option String := none
  /-- How many items a filter may have. -/
  itemLimit : Option Nat := none
  /-- The rules for implied items; a table is set as a whole. -/
  rules : Option RuleTable := none
  deriving DecidableEq, Repr, Inhabited

namespace Layer

/-- A layer that sets nothing. -/
def empty : Layer := {}

/-- One layer on top of another: the upper one decides each field that it sets. -/
def onTop (upper lower : Layer) : Layer where
  host := upper.host.or lower.host
  port := upper.port.or lower.port
  dialect := upper.dialect.or lower.dialect
  database := upper.database.or lower.database
  table := upper.table.or lower.table
  itemLimit := upper.itemLimit.or lower.itemLimit
  rules := upper.rules.or lower.rules

theorem empty_onTop (l : Layer) : empty.onTop l = l := by
  simp [empty, onTop]

theorem onTop_empty (l : Layer) : l.onTop empty = l := by
  simp [empty, onTop]

theorem onTop_assoc (a b c : Layer) : (a.onTop b).onTop c = a.onTop (b.onTop c) := by
  simp [onTop, Option.or_assoc]

end Layer

end LabelFilter
