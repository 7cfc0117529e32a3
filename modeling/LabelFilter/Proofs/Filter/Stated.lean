import LabelFilter.Filter.SubQuery
import LabelFilter.Proofs.Rows

/-!
# Stated conditions

When a compiler succeeds, every item of the filter and every implied item states a condition, and
the text is assembled from these conditions. This module turns a success into the two rows of
conditions, item by item, so that what follows never opens the compiler again.

## Main definitions

* `States` — items, and the conditions that they state
* `Test.IsStated` — the tests that an item can state

## Main results

* `Compiler.predicate_eq_do` — a predicate is written when all items have been checked
* `Compiler.predicate_eq_ok_iff`, `Compiler.subQuery_eq_ok_iff` — when compiling succeeds, and with
  what
* `Test.ext_operator_operand` — a test is its operator with its operand
* `States.filter` — leaving out keys leaves out the conditions on them
* `States.forall_mem_key_iff` — items and their conditions are on the same keys
-/

namespace LabelFilter

/-! ### Tests -/

namespace Test

/-- The tests that an item can state: lists are not empty. -/
def IsStated : Test → Prop
  | .oneOf vs | .noneOf vs => vs ≠ []
  | _ => True

theorem isStated_of_ofOperand? {op : Operator} {v : Option Operand} {t : Test}
    (h : ofOperand? op v = some t) : t.IsStated := by
  unfold ofOperand? at h
  split at h <;> cases h <;> simp [IsStated]

/-- A test is its operator with its operand. -/
theorem ext_operator_operand {t t' : Test} (hop : t.operator = t'.operator)
    (hv : t.operand = t'.operand) : t = t' := by
  cases t <;> cases t' <;> simp_all [operator, operand]

end Test

/-! ### Items and their conditions -/

theorem Item.condition_eq_ok_iff {item : Item} {c : Condition} :
    item.condition = .ok c ↔ ∃ op, Operator.ofToken? item.operator = some op ∧
      Test.ofOperand? op item.operand = some c.test ∧ item.key = c.key := by
  obtain ⟨key, test⟩ := c
  rw [condition]
  split
  · next h => simp [h]
  · next op h =>
    split
    · next h' => simp [h, h']
    · next t h' => simp [h, h', and_comm]

/-- A condition is on the key of its item. -/
theorem Item.key_eq_of_condition {item : Item} {c : Condition} (h : item.condition = .ok c) :
    item.key = c.key := by
  obtain ⟨_, -, -, hkey⟩ := Item.condition_eq_ok_iff.mp h
  exact hkey

/-- The items on keys that are not excluded. -/
def Filter.keptItems (f : Filter) (excluded : List String) : List Item :=
  f.items.filter fun item => !excluded.contains item.key

/-- The items state the conditions, one each. -/
def States (items : List Item) (cs : List Condition) : Prop :=
  List.Forall₂ (fun item c => item.condition = .ok c) items cs

namespace States

variable {items : List Item} {cs : List Condition}

/-- Leaving out items by their keys leaves out the conditions that they state. -/
theorem filter (h : States items cs) (keep : String → Bool) :
    States (items.filter fun item => keep item.key) (cs.filter fun c => keep c.key) := by
  refine List.rel_filter (fun item c hc => ?_) h
  change keep item.key = true ↔ keep c.key = true
  rw [Item.key_eq_of_condition hc]

/-- What holds of the keys of the items holds of the keys of their conditions. -/
theorem forall_mem_key_iff (h : States items cs) {P : String → Prop} :
    (∀ item ∈ items, P item.key) ↔ ∀ c ∈ cs, P c.key :=
  forall_mem_iff_of_forall₂ h fun item c hc => by rw [Item.key_eq_of_condition hc]

theorem unique {cs' : List Condition} (h : States items cs) (h' : States items cs') : cs = cs' :=
  Except.ok.inj ((mapM_eq_ok_iff.mpr h).symm.trans (mapM_eq_ok_iff.mpr h'))

theorem isStated (h : States items cs) : ∀ c ∈ cs, c.test.IsStated := by
  refine forall_mem_right_of_forall₂ h fun item c hc => ?_
  obtain ⟨_, -, htest, -⟩ := Item.condition_eq_ok_iff.mp hc
  exact Test.isStated_of_ofOperand? htest

end States

/-! ### Success of the compiler -/

namespace Compiler

variable {c : Compiler} {f : Filter} {s : Scope} {text : String}

/-- The items of the filter and the implied items state the conditions of a predicate. -/
structure Yields (c : Compiler) (f : Filter) (s : Scope) (stated implied : List Condition) :
    Prop where
  stated : States f.items stated
  implied : States (c.rules.implied s.aggregation) implied

theorem conditions_eq_ok_iff {stated implied : List Condition} :
    c.conditions f s = .ok (stated, implied) ↔ c.Yields f s stated implied := by
  rw [conditions]
  simp only [bind_eq_ok_iff, mapM_eq_ok_iff]
  constructor
  · rintro ⟨stated', hs, implied', hi, h⟩
    cases h
    exact ⟨hs, hi⟩
  · rintro ⟨hs, hi⟩
    exact ⟨stated, hs, implied, hi, rfl⟩

/-- All items are checked, those of the filter first, before anything is written. -/
theorem predicate_eq_do (c : Compiler) (f : Filter) (s : Scope) :
    c.predicate f s = (do
      let stated ← f.items.mapM Item.condition
      let implied ← (c.rules.implied s.aggregation).mapM Item.condition
      return c.assemble f.combinator s stated implied) := by
  simp [predicate, conditions]

theorem predicate_eq_ok_iff : c.predicate f s = .ok text ↔
    ∃ stated implied, c.Yields f s stated implied ∧
      c.assemble f.combinator s stated implied = text := by
  rw [predicate]
  rw [bind_eq_ok_iff]
  constructor
  · rintro ⟨⟨stated, implied⟩, h, htext⟩
    exact ⟨stated, implied, conditions_eq_ok_iff.mp h, Except.ok.inj htext⟩
  · rintro ⟨stated, implied, h, rfl⟩
    exact ⟨(stated, implied), conditions_eq_ok_iff.mpr h, rfl⟩

theorem subQuery_eq_ok_iff {source : SeriesTable} {tags : List String} :
    c.subQuery source f s tags = .ok text ↔
      ∃ predicate, c.predicate f s = .ok predicate ∧
        c.select source predicate s.aggregation tags = text := by
  rw [subQuery]
  rw [bind_eq_ok_iff]
  refine exists_congr fun predicate => and_congr_right fun _ => ⟨fun h => Except.ok.inj h, ?_⟩
  rintro rfl
  rfl

end Compiler

end LabelFilter
