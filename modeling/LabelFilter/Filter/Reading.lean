import LabelFilter.Filter.Rule
import LabelFilter.Json.Decode

/-!
# Filters and rules in documents

A filter is written as an object with the fields `op` and `items`, an item as an object with the
fields `key`, `value` and `op`, and a rule as an item with the further field `aggregations`. A
filter and an item may also be lists of their fields in this order. Fields with other names are
passed over.

## Main definitions

* `Combinator.ofDoc`, `Aggregation.ofDoc` — words
* `Operand.ofValue?`, `Item.ofDoc`, `Filter.ofDoc` — filters
* `Item.ofMembers`, `Rule.ofDoc`, `RuleTable.ofDoc` — rules
-/

namespace LabelFilter

open Json (Doc Fault Decoder Value Found Break Lexeme)

/-- The words for the combinators. -/
def Combinator.vocabulary : List (String × Combinator) :=
  [("AND", .all), ("and", .all), ("OR", .any), ("or", .any)]

/-- A combinator. -/
def Combinator.ofDoc : Decoder Combinator := Doc.asWord vocabulary

/-- The words for the aggregations. -/
def Aggregation.vocabulary : List (String × Aggregation) :=
  all.map fun a => (a.token, a)

/-- An aggregation. -/
def Aggregation.ofDoc : Decoder Aggregation := Doc.asWord vocabulary

/-- A list of texts, if all values are strings. -/
def textsOfValues? (values : List Value) : Option (List String) :=
  values.mapM fun
    | .string s => some s
    | _ => none

/-- The operand that a value is: a string or a list of strings. -/
def Operand.ofValue? : Value → Option Operand
  | .string s => some (.single s)
  | .list values => (textsOfValues? values).map .list
  | _ => none

/-- The operand that a value is. -/
def Operand.ofValue (v : Value) : Except Fault Operand :=
  match ofValue? v with
  | some o => .ok o
  | none => .error (.noAlternative "FilterValue")

/-- An operand. Its value is read whole before it is looked at. -/
def Operand.ofDoc (room : Nat) : Decoder (Option Operand) :=
  Doc.asOptional fun d => do Operand.ofValue (← d.value room)

namespace Item

/-- The fields of an item that have been read. -/
structure Fields where
  key : Option String := none
  operand : Option (Option Operand) := none
  operator : Option String := none

namespace Fields

/-- The item with these fields. A missing value is none. -/
def toItem (f : Fields) : Except Fault Item := do
  let key ← Doc.need "key" f.key
  let operator ← Doc.need "op" f.operator
  return ⟨key, f.operand.getD none, operator⟩

/-- Read one member. -/
def read (room : Nat) (f : Fields) (name : String) (d : Doc) : Except Fault Fields :=
  match name with
  | "key" => do return { f with key := ← Doc.once "key" f.key Doc.asString d }
  | "value" => do
    return { f with operand := ← Doc.once "value" f.operand (Operand.ofDoc room) d }
  | "op" => do return { f with operator := ← Doc.once "op" f.operator Doc.asString d }
  | _ => do
    d.skip
    return f

end Fields

/-- The fault of a list with too few fields. -/
def wrongLength (n : Nat) : Fault := .wrongLength n "struct FilterItem with 3 elements"

/-- An item in whose value at most `room` lists and objects stand inside each other. -/
def ofDoc (room : Nat) : Decoder Item :=
  Doc.asRecord "FilterItem"
    (fun items stop => do
      let (key, items) ← Doc.nextOr (.error (wrongLength 0)) Doc.asString items stop
      let (operand, items) ← Doc.nextOr (.ok none) (Operand.ofDoc room) items stop
      let (operator, items) ← Doc.nextOr (.error (wrongLength 2)) Doc.asString items stop
      Doc.endItems items stop
      return ⟨key, operand, operator⟩)
    (fun ms stop => do (← Doc.members (Fields.read room) {} ms stop).toItem)

end Item

/-- A filter. The lists and objects around an item's value count as three. -/
def Filter.ofDoc (room : Nat) : Decoder Filter :=
  let items : Decoder (List Item) := Doc.asList (Item.ofDoc (room - 3))
  Doc.asRecord "FilterSet"
    (fun fields stop => do
      let (op, fields) ← Doc.nextOr (.ok .all) Combinator.ofDoc fields stop
      let (items, fields) ← Doc.nextOr (.ok []) items fields stop
      Doc.endItems fields stop
      return ⟨op, items⟩)
    (fun ms stop => do
      let (op, items) ← Doc.members (σ := Option Combinator × Option (List Item))
        (fun (op, list) name d => do
          match name with
          | "op" => return (← Doc.once "op" op Combinator.ofDoc d, list)
          | "items" => return (op, ← Doc.once "items" list items d)
          | _ =>
            d.skip
            return (op, list))
        (none, none) ms stop
      return ⟨op.getD .all, items.getD []⟩)

/-! ### Rules

The members of a rule are kept whole before the item is read out of them, because the fields of
the item stand among those of the rule. -/

/-- What was found in place of a value of another form. -/
def foundValue : Value → Found
  | .null => .null
  | .bool b => .bool b
  | .number m => .number m
  | .string s => .string s
  | .list _ => .list
  | .object _ => .object

/-- The text that a value is. -/
def textOfValue : Value → Except Fault String
  | .string s => .ok s
  | v => .error (.wrongKind (foundValue v) "a string")

namespace Item

/-- Store the value of a member that must not be repeated. -/
def onceValue {α : Type} (name : String) (slot : Option α) (decode : Value → Except Fault α)
    (v : Value) : Except Fault (Option α) :=
  match slot with
  | some _ => .error (.duplicateField name)
  | none => (decode v).map some

/-- The operand that a value is, where `null` is none. -/
def operandOfValue : Value → Except Fault (Option Operand)
  | .null => .ok none
  | v => (Operand.ofValue v).map some

/-- Read one member that has been kept. -/
def Fields.readValue (f : Fields) (name : String) (v : Value) : Except Fault Fields :=
  match name with
  | "key" => do return { f with key := ← onceValue "key" f.key textOfValue v }
  | "value" => do return { f with operand := ← onceValue "value" f.operand operandOfValue v }
  | "op" => do return { f with operator := ← onceValue "op" f.operator textOfValue v }
  | _ => .ok f

/-- The item that the members of an object state. -/
def ofMembers (ms : List (String × Value)) : Except Fault Item := do
  (← ms.foldlM (fun f m => f.readValue m.1 m.2) ({} : Fields)).toItem

end Item

/-- A rule in whose members at most `room` lists and objects stand inside each other. -/
def Rule.ofDoc (room : Nat) : Decoder Rule
  | .object ms stop => do
    let (aggregations, kept) ← Doc.members
      (σ := Option (List Aggregation) × List (String × Value))
      (fun (aggregations, kept) name d => do
        if name = "aggregations" then
          return (← Doc.once name aggregations (Doc.asList Aggregation.ofDoc) d, kept)
        else return (aggregations, (name, ← d.value room) :: kept))
      (none, []) ms stop
    let aggregations ← Doc.need "aggregations" aggregations
    return ⟨aggregations, ← Item.ofMembers kept.reverse⟩
  | d => d.unexpected "struct ImplicitRule"

/-- A table of rules. The list and a rule count as two. -/
def RuleTable.ofDoc (room : Nat) : Decoder RuleTable :=
  Doc.asList (Rule.ofDoc (room - 2))

end LabelFilter
