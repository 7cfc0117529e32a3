import Mathlib.Data.List.Infix
import Mathlib.Logic.Relation
import LabelFilter.Shutdown

/-!
# Histories of handles

What a row of steps says about handles and waiters, without the channels between them. A step makes
the handle or the waiter with the next number. Two handles are of one family if they are connected
by cloning, and a family has been told that shutdown has begun if any of its handles was triggered.

Everything is stated on prefixes: `before ++ [t] <+: ts` says that the step `t` was made after the
steps `before`.

## Main definitions

* `handleCount`, `waiterCount` — how many handles and waiters there are
* `ClonedFrom`, `SameFamily`, `WaiterOf` — what was made from what
* `Told` — whether the family of a handle has been told
* `Step.Concerns` — the handle that a step is about
* `Possible` — rows of steps that name only what there is

## Main results

* `Possible.earlier`, `Possible.names` — what is possible is so at each step
* `exists_concerns` — every question is about a handle
* `SameFamily.mono`, `Told.mono` — what has happened stays so
-/

namespace LabelFilter.Shutdown

/-! ### What there is -/

/-- Whether a step makes a handle. -/
def Step.makesHandle : Step → Bool
  | .create | .clone _ => true
  | _ => false

/-- Whether a step makes a waiter. -/
def Step.makesWaiter : Step → Bool
  | .wait _ => true
  | _ => false

/-- Whether a step asks a handle or a waiter whether it has been told. -/
def Step.isQuery : Step → Bool
  | .isTriggered _ | .poll _ => true
  | _ => false

/-- The number of handles after some steps. One was there before. -/
def handleCount (ts : List Step) : Nat := 1 + ts.countP Step.makesHandle

/-- The number of waiters after some steps. -/
def waiterCount (ts : List Step) : Nat := ts.countP Step.makesWaiter

/-- Whether a step names a handle or a waiter that is there after the steps `ts`. -/
def Step.Names (ts : List Step) : Step → Prop
  | .create => True
  | .clone h | .trigger h | .isTriggered h | .wait h => h < handleCount ts
  | .poll w => w < waiterCount ts

instance (ts : List Step) (t : Step) : Decidable (t.Names ts) := by
  cases t <;> (unfold Step.Names; infer_instance)

/-- Rows of steps that name only what there is. -/
inductive Possible : List Step → Prop
  | nil : Possible []
  | concat {ts : List Step} {t : Step} (h : Possible ts) (ht : t.Names ts) : Possible (ts ++ [t])

/-! ### What was made from what -/

/-- The handle `h` was made by cloning the handle `g`. -/
def ClonedFrom (ts : List Step) (g h : Nat) : Prop :=
  ∃ before, before ++ [.clone g] <+: ts ∧ handleCount before = h

/-- Two handles are connected by cloning. -/
def SameFamily (ts : List Step) : Nat → Nat → Prop := Relation.EqvGen (ClonedFrom ts)

/-- The waiter `w` was made from the handle `h`. -/
def WaiterOf (ts : List Step) (w h : Nat) : Prop :=
  ∃ before, before ++ [.wait h] <+: ts ∧ waiterCount before = w

/-- A handle of the family of `h` was triggered. -/
def Told (ts : List Step) (h : Nat) : Prop := ∃ g, .trigger g ∈ ts ∧ SameFamily ts g h

/-- The handle that a step is about. A waiter is about the handle that it was made from, and a new
handle about none. -/
inductive Step.Concerns (ts : List Step) : Step → Nat → Prop
  | clone (h : Nat) : Concerns ts (.clone h) h
  | trigger (h : Nat) : Concerns ts (.trigger h) h
  | isTriggered (h : Nat) : Concerns ts (.isTriggered h) h
  | wait (h : Nat) : Concerns ts (.wait h) h
  | poll {w h : Nat} (hw : WaiterOf ts w h) : Concerns ts (.poll w) h

/-! ### One more step -/

section

variable {ts : List Step} {t : Step}

theorem handleCount_concat :
    handleCount (ts ++ [t]) = handleCount ts + if t.makesHandle then 1 else 0 := by
  rw [handleCount, handleCount, List.countP_append, List.countP_singleton, Nat.add_assoc]

theorem waiterCount_concat :
    waiterCount (ts ++ [t]) = waiterCount ts + if t.makesWaiter then 1 else 0 := by
  rw [waiterCount, waiterCount, List.countP_append, List.countP_singleton]

/-- A step was made before or is the last one. -/
theorem concat_prefix_concat_iff {before : List Step} {u : Step} :
    before ++ [u] <+: ts ++ [t] ↔ (before = ts ∧ u = t) ∨ before ++ [u] <+: ts := by
  simp [List.prefix_concat_iff]

theorem exists_prefix_concat_iff {u : Step} {P : List Step → Prop} :
    (∃ before, before ++ [u] <+: ts ++ [t] ∧ P before) ↔
      (∃ before, before ++ [u] <+: ts ∧ P before) ∨ (t = u ∧ P ts) := by
  simp only [concat_prefix_concat_iff]
  constructor
  · rintro ⟨before, ⟨rfl, rfl⟩ | hbefore, h⟩
    · exact .inr ⟨rfl, h⟩
    · exact .inl ⟨before, hbefore, h⟩
  · rintro (⟨before, hbefore, h⟩ | ⟨rfl, h⟩)
    · exact ⟨before, .inr hbefore, h⟩
    · exact ⟨ts, .inl ⟨rfl, rfl⟩, h⟩

theorem clonedFrom_concat_iff {g h : Nat} : ClonedFrom (ts ++ [t]) g h ↔
    ClonedFrom ts g h ∨ (t = .clone g ∧ handleCount ts = h) :=
  exists_prefix_concat_iff

theorem waiterOf_concat_iff {w h : Nat} : WaiterOf (ts ++ [t]) w h ↔
    WaiterOf ts w h ∨ (t = .wait h ∧ waiterCount ts = w) :=
  exists_prefix_concat_iff

end

/-! ### Longer histories -/

section

variable {ts us before : List Step} {t : Step} {g n w : Nat}

theorem Possible.earlier (h : Possible ts) (hbefore : before <+: ts) : Possible before := by
  induction h with
  | nil =>
    rw [List.prefix_nil.mp hbefore]
    exact .nil
  | concat h ht ih =>
    obtain rfl | hbefore := List.prefix_concat_iff.mp hbefore
    · exact .concat h ht
    · exact ih hbefore

/-- What is possible is so at each step. -/
theorem Possible.names (h : Possible ts) (ht : before ++ [t] <+: ts) : t.Names before := by
  induction h with
  | nil => simp at ht
  | concat h hnames ih =>
    obtain ⟨rfl, rfl⟩ | ht := concat_prefix_concat_iff.mp ht
    · exact hnames
    · exact ih ht

theorem possible_iff : Possible ts ↔ ∀ i : Fin ts.length, ts[i].Names (ts.take i) := by
  constructor
  · intro h i
    have htake : ts.take i ++ [ts[i.val]] = ts.take (i + 1) := List.take_append_getElem i.isLt
    exact h.names (htake ▸ List.take_prefix _ _)
  · intro h
    induction ts using List.reverseRecOn with
    | nil => exact .nil
    | append_singleton ts t ih =>
      refine .concat (ih fun i => ?_) ?_
      · have hlt : i.val < (ts ++ [t]).length := by
          rw [List.length_append]
          exact Nat.lt_add_right _ i.isLt
        have hi := h ⟨i, hlt⟩
        simpa [List.getElem_append_left, List.take_append_of_le_length] using hi
      · simpa using h ⟨ts.length, by simp⟩

instance : DecidablePred Possible := fun _ => decidable_of_iff' _ possible_iff

theorem handleCount_mono (h : ts <+: us) : handleCount ts ≤ handleCount us :=
  Nat.add_le_add_left (List.Sublist.countP_le h.sublist) 1

theorem waiterCount_mono (h : ts <+: us) : waiterCount ts ≤ waiterCount us :=
  List.Sublist.countP_le h.sublist

/-- What is there stays there. -/
theorem Step.Names.mono (hts : ts <+: us) (h : t.Names ts) : t.Names us := by
  cases t with
  | create => trivial
  | clone n | trigger n | isTriggered n | wait n =>
    exact Nat.lt_of_lt_of_le h (handleCount_mono hts)
  | poll w => exact Nat.lt_of_lt_of_le h (waiterCount_mono hts)

theorem ClonedFrom.mono (hts : ts <+: us) (h : ClonedFrom ts g n) : ClonedFrom us g n :=
  let ⟨before, hbefore, hcount⟩ := h
  ⟨before, hbefore.trans hts, hcount⟩

theorem SameFamily.mono (hts : ts <+: us) (h : SameFamily ts g n) : SameFamily us g n :=
  Relation.EqvGen.mono (fun _ _ h => h.mono hts) _ _ h

theorem WaiterOf.mono (hts : ts <+: us) (h : WaiterOf ts w n) : WaiterOf us w n :=
  let ⟨before, hbefore, hcount⟩ := h
  ⟨before, hbefore.trans hts, hcount⟩

/-- What has been told stays so. -/
theorem Told.mono (hts : ts <+: us) (h : Told ts n) : Told us n :=
  let ⟨g, hg, hfamily⟩ := h
  ⟨g, hts.subset hg, hfamily.mono hts⟩

theorem WaiterOf.lt (h : WaiterOf ts w n) : w < waiterCount ts := by
  obtain ⟨before, hbefore, rfl⟩ := h
  have hle := waiterCount_mono hbefore
  rw [waiterCount_concat] at hle
  exact hle

/-- A waiter was made from one handle. -/
theorem WaiterOf.unique {n' : Nat} (h : WaiterOf ts w n) (h' : WaiterOf ts w n') : n = n' := by
  induction ts using List.reverseRecOn with
  | nil =>
    obtain ⟨before, hbefore, -⟩ := h
    simp at hbefore
  | append_singleton ts t ih =>
    obtain h | ⟨rfl, rfl⟩ := waiterOf_concat_iff.mp h <;>
      obtain h' | ⟨ht, hcount⟩ := waiterOf_concat_iff.mp h'
    · exact ih h h'
    · exact absurd (hcount ▸ h.lt) (Nat.lt_irrefl _)
    · exact absurd h'.lt (Nat.lt_irrefl _)
    · exact Step.wait.inj ht

/-- A waiter that is there was made from a handle. -/
theorem exists_waiterOf (hw : w < waiterCount ts) : ∃ n, WaiterOf ts w n := by
  induction ts using List.reverseRecOn with
  | nil => exact absurd hw (Nat.not_lt_zero w)
  | append_singleton ts t ih =>
    simp only [waiterOf_concat_iff]
    rw [waiterCount_concat] at hw
    by_cases hbefore : w < waiterCount ts
    · obtain ⟨n, hn⟩ := ih hbefore
      exact ⟨n, .inl hn⟩
    · cases t with
      | wait n =>
        have hlast : w = waiterCount ts :=
          Nat.le_antisymm (Nat.le_of_lt_succ hw) (Nat.not_lt.mp hbefore)
        exact ⟨n, .inr ⟨rfl, hlast.symm⟩⟩
      | _ => exact absurd hw hbefore

/-- A question is about a handle. -/
theorem exists_concerns (hquery : t.isQuery = true) (ht : t.Names ts) :
    ∃ n, t.Concerns ts n := by
  cases t with
  | isTriggered n => exact ⟨n, .isTriggered n⟩
  | poll w =>
    obtain ⟨n, hof⟩ := exists_waiterOf ht
    exact ⟨n, .poll hof⟩
  | create | clone _ | trigger _ | wait _ => cases hquery

theorem Step.Concerns.mono (hts : ts <+: us) (h : t.Concerns ts n) : t.Concerns us n := by
  cases h with
  | poll hw => exact .poll (hw.mono hts)
  | _ => constructor

/-- A handle that is triggered was there before. -/
theorem Possible.trigger_lt (h : Possible ts) (hg : .trigger g ∈ ts) : g < handleCount ts := by
  obtain ⟨before, later, rfl⟩ := List.append_of_mem hg
  have hle : before ++ [.trigger g] <+: before ++ .trigger g :: later := ⟨later, by simp⟩
  have hnames : g < handleCount before := h.names hle
  exact Nat.lt_of_lt_of_le hnames (handleCount_mono (List.prefix_append _ _))

/-- A step that is possible is about a handle that is there. -/
theorem Possible.concerns_lt (h : Possible ts) (ht : t.Names ts) (hn : t.Concerns ts n) :
    n < handleCount ts := by
  cases hn with
  | clone | trigger | isTriggered | wait => exact ht
  | poll hw =>
    obtain ⟨before, hbefore, -⟩ := hw
    have hnames : n < handleCount before := h.names hbefore
    have hle := (List.prefix_append before [.wait n]).trans hbefore
    exact Nat.lt_of_lt_of_le hnames (handleCount_mono hle)

end

end LabelFilter.Shutdown
