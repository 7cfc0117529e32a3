/-!
# Filters

A filter as a client states it: items that each ask something of one label, and whether all of
them or any of them must hold. The operator of an item is a bare token here; whether it names an
operator is asked later (`Item.condition`).

## Main definitions

* `Operand`, `Shape` — what stands beside the key of an item
* `Item` — one item
* `Combinator`, `Filter` — items put together
-/

namespace LabelFilter

/-- What an item compares a label with. -/
inductive Operand where
  | single (value : String)
  | list (values : List String)
  deriving DecidableEq, Repr

/-- One item of a filter. -/
structure Item where
  key : String
  operand : Option Operand
  /-- The token of the operator, as it was written. -/
  operator : String
  deriving DecidableEq, Repr

/-- The form of what stands beside a key. -/
inductive Shape where
  | single
  | list
  | emptyList
  | absent
  deriving DecidableEq, Repr

/-- The form of an operand. -/
def Shape.of : Option Operand → Shape
  | none => .absent
  | some (.single _) => .single
  | some (.list []) => .emptyList
  | some (.list (_ :: _)) => .list

/-- A shape as it is named in messages. -/
def Shape.text : Shape → String
  | .single => "a single value"
  | .list => "a list"
  | .emptyList => "an empty list"
  | .absent => "no value"

/-- Whether all items or any item must hold. -/
inductive Combinator where
  | all
  | any
  deriving DecidableEq, Repr, Inhabited

namespace Combinator

/-- The word that stands for a combinator. -/
def token : Combinator → String
  | .all => "AND"
  | .any => "OR"

/-- What stands between the conditions that a combinator puts together. -/
def joiner : Combinator → String
  | .all => " AND "
  | .any => " OR "

end Combinator

/-- Items put together. -/
structure Filter where
  combinator : Combinator := .all
  items : List Item := []
  deriving DecidableEq, Repr, Inhabited

end LabelFilter
