import LabelFilter.Proofs.Filter.Stated

/-!
# What operators take

The arity of an operator says what has to stand beside the key, and an item states a condition
exactly if that is what stands there. The table of arities and the tests that operators make of
operands are two separate tables; here they are shown to agree, for every operator and in the errors
as well. The empty text is a value like any other, but the empty list is no list.

## Main definitions

* `Arity.Takes` — what an arity admits
* `Arity.shape` — the form of what it admits

## Main results

* `Arity.takes_iff_shape` — an arity admits what has its form
* `Test.exists_ofOperand?_iff` — an operator makes a test of what its arity admits
* `Item.condition_agrees_with_arity` — which items state conditions, and why the others do not
-/

namespace LabelFilter

/-! ### Arities -/

namespace Arity

/-- What may stand beside the key of an item: one text, a list with something in it, or nothing. -/
def Takes : Arity → Option Operand → Prop
  | .scalar, v => ∃ s, v = some (.single s)
  | .list, v => ∃ s ss, v = some (.list (s :: ss))
  | .none, v => v = .none

/-- The form of what an arity admits. -/
def shape : Arity → Shape
  | .scalar => .single
  | .list => .list
  | .none => .absent

/-- An arity admits what has its form. -/
theorem takes_iff_shape {a : Arity} {v : Option Operand} : a.Takes v ↔ Shape.of v = a.shape := by
  rcases v with _ | s | _ | ⟨s, ss⟩ <;> cases a <;> simp [Takes, shape, Shape.of]

end Arity

/-! ### Tests -/

/-- An operator makes a test of what its arity admits. -/
theorem Test.exists_ofOperand?_iff {op : Operator} {v : Option Operand} :
    (∃ t, ofOperand? op v = some t) ↔ op.arity.Takes v := by
  rcases v with _ | s | _ | ⟨s, ss⟩ <;> cases op <;> simp [ofOperand?, Operator.arity, Arity.Takes]

/-- The test that an operator makes of an operand is the one with this operator and operand. -/
theorem Test.ofOperand?_eq_some_iff {op : Operator} {v : Option Operand} {t : Test} :
    ofOperand? op v = some t ↔ op.arity.Takes v ∧ t.operator = op ∧ t.operand = v := by
  constructor
  · intro h
    exact ⟨exists_ofOperand?_iff.mp ⟨t, h⟩, operator_ofOperand? h, operand_ofOperand? h⟩
  · rintro ⟨htakes, hop, hv⟩
    obtain ⟨t', h⟩ := exists_ofOperand?_iff.mpr htakes
    have hsame : t' = t := ext_operator_operand ((operator_ofOperand? h).trans hop.symm)
      ((operand_ofOperand? h).trans hv.symm)
    exact hsame ▸ h

/-! ### Items -/

namespace Item

variable {item : Item} {e : ItemError}

/-- An item states a condition if its operator takes its operand. -/
theorem exists_condition_iff : (∃ c, item.condition = .ok c) ↔
    ∃ op, Operator.ofToken? item.operator = some op ∧ op.arity.Takes item.operand := by
  simp only [condition_eq_ok_iff, ← Test.exists_ofOperand?_iff]
  constructor
  · rintro ⟨c, op, hop, htest, -⟩
    exact ⟨op, hop, c.test, htest⟩
  · rintro ⟨op, hop, t, ht⟩
    exact ⟨⟨item.key, t⟩, op, hop, ht, rfl⟩

/-- Why an item states no condition. -/
theorem condition_eq_error_iff : item.condition = .error e ↔
    (Operator.ofToken? item.operator = none ∧ e = .unknownOperator item.operator) ∨
      ∃ op, Operator.ofToken? item.operator = some op ∧ ¬ op.arity.Takes item.operand ∧
        e = .wrongOperand item.key op op.arity (Shape.of item.operand) := by
  rw [condition]
  cases hop : Operator.ofToken? item.operator with
  | none => simp [eq_comm]
  | some op =>
    have htakes : (∃ t, Test.ofOperand? op item.operand = some t) ↔ op.arity.Takes item.operand :=
      Test.exists_ofOperand?_iff
    cases htest : Test.ofOperand? op item.operand with
    | none => simp [← htakes, htest, eq_comm]
    | some t => simp [← htakes, htest]

/-- **Items are checked by the table of arities.** An item states a condition exactly if its token
names an operator and what stands beside the key has the form that the arity of the operator admits.
The condition is on the key of the item, is what the operator asks, and compares with the operand as
it was written. An unknown token is reported as it was written, whatever stands beside the key.
Every other error names the key, the operator, its arity, and the form that was found, which is
never the one that was expected. -/
theorem condition_agrees_with_arity (item : Item) :
    ((∃ c, item.condition = .ok c) ↔ ∃ op, Operator.ofToken? item.operator = some op ∧
      Shape.of item.operand = op.arity.shape) ∧
    (∀ c, item.condition = .ok c ↔ ∃ op, Operator.ofToken? item.operator = some op ∧
      op.arity.Takes item.operand ∧ c.key = item.key ∧ c.test.operator = op ∧
        c.test.operand = item.operand) ∧
    ∀ e, item.condition = .error e ↔
      (Operator.ofToken? item.operator = none ∧ e = .unknownOperator item.operator) ∨
        ∃ op, Operator.ofToken? item.operator = some op ∧
          Shape.of item.operand ≠ op.arity.shape ∧
          e = .wrongOperand item.key op op.arity (Shape.of item.operand) := by
  refine ⟨?_, fun c => ?_, fun e => ?_⟩
  · simp only [exists_condition_iff, Arity.takes_iff_shape]
  · rw [condition_eq_ok_iff]
    refine exists_congr fun op => and_congr_right fun _ => ?_
    rw [Test.ofOperand?_eq_some_iff]
    constructor
    · rintro ⟨⟨htakes, htest, hoperand⟩, hkey⟩
      exact ⟨htakes, hkey.symm, htest, hoperand⟩
    · rintro ⟨htakes, hkey, htest, hoperand⟩
      exact ⟨⟨htakes, htest, hoperand⟩, hkey.symm⟩
  · simp only [condition_eq_error_iff, Arity.takes_iff_shape, ne_eq]

/-- The empty text is a value, but the empty list is no list. -/
example : (⟨"env", some (.single ""), " eq "⟩ : Item).condition = .ok ⟨"env", .equal ""⟩ ∧
    (⟨"env", some (.list []), "nin"⟩ : Item).condition =
      .error (.wrongOperand "env" .noneOf .list .emptyList) :=
  ⟨rfl, rfl⟩

end Item

end LabelFilter
