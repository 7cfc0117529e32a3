import LabelFilter.Filter.Item
import LabelFilter.Filter.Operator

/-!
# Conditions

A condition is an item whose operator is known and has what it takes: a test of the label `key`.

## Main definitions

* `Test`, `Condition` — what a label is tested for
* `ItemError` — why an item is no condition
* `Item.condition` — the condition that an item states

## Main results

* `Test.operator_ofOperand?` — a test asks what its operator asks
-/

namespace LabelFilter

/-- What a label is tested for. -/
inductive Test where
  | equal (value : String)
  | notEqual (value : String)
  | oneOf (values : List String)
  | noneOf (values : List String)
  | like (pattern : String)
  | notLike (pattern : String)
  | regex (pattern : String)
  | notRegex (pattern : String)
  | present
  | absent
  deriving DecidableEq, Repr

/-- A test of one label. -/
structure Condition where
  key : String
  test : Test
  deriving DecidableEq, Repr

/-- Why an item states no condition. -/
inductive ItemError where
  /-- The token names no operator. -/
  | unknownOperator (token : String)
  /-- The operator does not take what stands beside the key. -/
  | wrongOperand (key : String) (operator : Operator) (expected : Arity) (found : Shape)
  deriving DecidableEq, Repr

namespace ItemError

/-- The code that clients tell errors apart by. -/
def code : ItemError → String
  | .unknownOperator _ => "UNSUPPORTED_OPERATION"
  | .wrongOperand .. => "ARITY_MISMATCH"

/-- The wording of an error. -/
def message : ItemError → String
  | .unknownOperator token => "unsupported operation: " ++ token
  | .wrongOperand key operator expected found =>
    "operator " ++ operator.token ++ " on key '" ++ key ++ "' expects " ++ expected.text ++
      ", got " ++ found.text

end ItemError

namespace Test

/-- The operator of a test. -/
def operator : Test → Operator
  | .equal _ => .equal
  | .notEqual _ => .notEqual
  | .oneOf _ => .oneOf
  | .noneOf _ => .noneOf
  | .like _ => .like
  | .notLike _ => .notLike
  | .regex _ => .regex
  | .notRegex _ => .notRegex
  | .present => .present
  | .absent => .absent

/-- What a test compares a label with. -/
def operand : Test → Option Operand
  | .equal v | .notEqual v | .like v | .notLike v | .regex v | .notRegex v => some (.single v)
  | .oneOf vs | .noneOf vs => some (.list vs)
  | .present | .absent => none

/-- The test that an operator makes of an operand, if the operator takes it. -/
def ofOperand? : Operator → Option Operand → Option Test
  | .equal, some (.single v) => some (.equal v)
  | .notEqual, some (.single v) => some (.notEqual v)
  | .like, some (.single v) => some (.like v)
  | .notLike, some (.single v) => some (.notLike v)
  | .regex, some (.single v) => some (.regex v)
  | .notRegex, some (.single v) => some (.notRegex v)
  | .oneOf, some (.list (v :: vs)) => some (.oneOf (v :: vs))
  | .noneOf, some (.list (v :: vs)) => some (.noneOf (v :: vs))
  | .present, none => some .present
  | .absent, none => some .absent
  | _, _ => none

theorem operator_ofOperand? {op : Operator} {v : Option Operand} {t : Test}
    (h : ofOperand? op v = some t) : t.operator = op := by
  unfold ofOperand? at h
  split at h <;> simp at h <;> subst h <;> rfl

theorem operand_ofOperand? {op : Operator} {v : Option Operand} {t : Test}
    (h : ofOperand? op v = some t) : t.operand = v := by
  unfold ofOperand? at h
  split at h <;> simp at h <;> subst h <;> rfl

end Test

/-- The condition that an item states. An unknown operator is reported whatever stands beside
the key. -/
def Item.condition (item : Item) : Except ItemError Condition :=
  match Operator.ofToken? item.operator with
  | none => .error (.unknownOperator item.operator)
  | some op =>
    match Test.ofOperand? op item.operand with
    | none => .error (.wrongOperand item.key op op.arity (Shape.of item.operand))
    | some test => .ok ⟨item.key, test⟩

end LabelFilter
