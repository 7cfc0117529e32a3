import LabelFilter.Proofs.Json.Exact

/-!
# Values that are kept

A value may be kept whole before anything asks for its form. That takes more than reading past it:
its numbers must be in range and it must not be nested too deep, wherever in it they stand. It takes
nothing else, so what a text denotes decides whether its value is kept.

## Main definitions

* `Term.Fits` — what may be kept
* `Doc.KeptAs` — the form of what is kept

## Main results

* `Doc.Denotes.exists_value_iff` — a tree is kept if what it denotes fits
* `Doc.keptAs_of_value` — what is kept has the form of its tree
* `Doc.thorough_value` — only whole trees are kept
-/

namespace LabelFilter.Json

/-- What may be kept where there is so much room: all numbers are in range, and no more than `room`
lists and objects stand inside each other. -/
inductive Term.Fits : Nat → Term → Prop where
  | word {room : Nat} (w : Word) : Fits room (.word w)
  | number {room : Nat} {n : Number} {m : Magnitude} (h : n.magnitude? = some m) :
      Fits room (.number n)
  | string {room : Nat} (s : String) : Fits room (.string s)
  | list {room : Nat} {ts : List Term} (h : ∀ t ∈ ts, Fits room t) : Fits (room + 1) (.list ts)
  | object {room : Nat} {ms : List (String × Term)} (h : ∀ m ∈ ms, Fits room m.2) :
      Fits (room + 1) (.object ms)

namespace Doc

variable {room : Nat}

/-- Where the text goes on to the end of a list or an object, only its parts can be wrong. -/
theorem exists_settled_iff {α β : Type} {x : Except Fault α} (f : α → β) :
    (∃ b, (do let a ← x; Break.settle none; return f a) = Except.ok b) ↔ ∃ a, x = .ok a := by
  cases x with
  | error e => exact ⟨nofun, nofun⟩
  | ok a => exact ⟨fun _ => ⟨a, rfl⟩, fun _ => ⟨f a, rfl⟩⟩

theorem exists_value_list_iff {ds : List Doc} :
    (∃ v, (list ds none).value (room + 1) = .ok v) ↔ ∀ d ∈ ds, ∃ v, d.value room = .ok v := by
  rw [← exists_mapM_eq_ok_iff]
  simp only [value]
  exact exists_settled_iff Value.list

theorem exists_value_object_iff {ms : List (Lexeme × Doc)} :
    (∃ v, (object ms none).value (room + 1) = .ok v) ↔
      ∀ m ∈ ms, (∃ name, m.1.decode = .ok name) ∧ ∃ v, m.2.value room = .ok v := by
  have hmember : ∀ m : Lexeme × Doc,
      (∃ k, (do let key ← m.1.decode; return (key, ← m.2.value room)) = Except.ok k) ↔
        (∃ name, m.1.decode = .ok name) ∧ ∃ v, m.2.value room = .ok v := by
    intro m
    cases m.1.decode <;> cases m.2.value room <;> simp [bind, Except.bind, pure, Except.pure]
  simp only [← hmember]
  rw [← exists_mapM_eq_ok_iff]
  simp only [value]
  exact exists_settled_iff Value.object

/-- **A tree is kept if what it denotes fits.** The induction is on the room: what stands in a list
or an object has less of it. -/
theorem Denotes.exists_value_iff {d : Doc} {t : Term} (h : d.Denotes t) :
    (∃ v, d.value room = .ok v) ↔ t.Fits room := by
  induction room using Nat.strongRecOn generalizing d t with | ind room ih => ?_
  cases h with
  | word w =>
    refine ⟨fun _ => .word w, fun _ => ?_⟩
    cases w <;> exact ⟨_, by rw [value]⟩
  | number n =>
    rw [value, Number.decode]
    constructor
    · rintro ⟨v, hv⟩
      cases hm : n.magnitude? with
      | none => simp [hm, Except.map] at hv
      | some m => exact .number hm
    · rintro (_ | hm)
      exact ⟨_, by rw [hm]; rfl⟩
  | @string lexeme s h =>
    refine ⟨fun _ => .string s, fun _ => ⟨.string s, ?_⟩⟩
    rw [value, h]
    rfl
  | @list ds ts hds =>
    cases room with
    | zero =>
      constructor
      · rintro ⟨v, hv⟩
        simp [value] at hv
      · rintro ⟨⟩
    | succ room =>
      have hitems := forall_mem_iff_of_forall₂ hds fun d t h => ih room (Nat.lt_succ_self room) h
      rw [exists_value_list_iff, hitems]
      constructor
      · exact .list
      · intro h
        cases h with | list h => exact h
  | @object ms ms' hnames hvalues =>
    cases room with
    | zero =>
      constructor
      · rintro ⟨v, hv⟩
        simp [value] at hv
      · rintro ⟨⟩
    | succ room =>
      have hreadable := readable_of_denotes hnames hvalues
      have hmembers : (∀ m ∈ ms, ∃ v, m.2.value room = .ok v) ↔ ∀ m' ∈ ms', m'.2.Fits room :=
        forall_mem_iff_of_forall₂ hvalues fun m m' h => ih room (Nat.lt_succ_self room) h
      rw [exists_value_object_iff]
      constructor
      · intro h
        exact .object (hmembers.mp fun m hm => (h m hm).2)
      · rintro (_ | _ | _ | _ | h) m hm
        exact ⟨(hreadable m hm).1, hmembers.mpr h m hm⟩

/-- What a value that is kept of a tree shows without a look inside of lists and objects. -/
inductive KeptAs : Doc → Value → Prop where
  | null : KeptAs (.word .null) .null
  | true : KeptAs (.word .true) (.bool Bool.true)
  | false : KeptAs (.word .false) (.bool Bool.false)
  | number {n : Number} {m : Magnitude} (h : n.decode = .ok m) : KeptAs (.number n) (.number m)
  | string {lexeme : Lexeme} {s : String} (h : lexeme.decode = .ok s) :
      KeptAs (.string lexeme) (.string s)
  | list (ds : List Doc) (stop : Option Break) (values : List Value) :
      KeptAs (.list ds stop) (.list values)
  | object (ms : List (Lexeme × Doc)) (stop : Option Break) (values : List (String × Value)) :
      KeptAs (.object ms stop) (.object values)

theorem keptAs_of_value {d : Doc} {v : Value} (h : d.value room = .ok v) : d.KeptAs v := by
  unfold value at h
  split at h
  · cases h
    exact .null
  · cases h
    exact .true
  · cases h
    exact .false
  · next n =>
    cases hn : n.decode with
    | error e => simp [hn, Except.map] at h
    | ok m =>
      obtain rfl : Value.number m = v := by simpa [hn, Except.map] using h
      exact .number hn
  · next lexeme =>
    cases hs : lexeme.decode with
    | error e => simp [hs, Except.map] at h
    | ok s =>
      obtain rfl : Value.string s = v := by simpa [hs, Except.map] using h
      exact .string hs
  · cases h
  · cases h
  · cases h
  · obtain ⟨_, -, h⟩ := bind_eq_ok_iff.mp h
    obtain ⟨_, -, h⟩ := bind_eq_ok_iff.mp h
    cases h
    exact .list _ _ _
  · obtain ⟨_, -, h⟩ := bind_eq_ok_iff.mp h
    obtain ⟨_, -, h⟩ := bind_eq_ok_iff.mp h
    cases h
    exact .object _ _ _

/-- Only whole trees are kept. -/
theorem thorough_value (room : Nat) : Decoder.Thorough (value room) := by
  induction room using Nat.strongRecOn with | ind room ih => ?_
  intro d v h
  cases d with
  | word w => exact ⟨.word w, .word w⟩
  | number n => exact ⟨.number n, .number n⟩
  | string lexeme =>
    cases keptAs_of_value h with
    | string hs => exact ⟨.string _, .string hs⟩
  | broken b =>
    rw [value] at h
    cases h
  | list ds stop =>
    cases room with
    | zero =>
      rw [value] at h
      cases h
    | succ room =>
      rw [value] at h
      obtain ⟨values, hitems, h⟩ := bind_eq_ok_iff.mp h
      obtain ⟨_, hstop, -⟩ := bind_eq_ok_iff.mp h
      cases Break.settle_eq_ok_iff.mp hstop
      exact isWhole_list (forall_mem_left_of_forall₂ (mapM_eq_ok_iff.mp hitems)
        (ih room (Nat.lt_succ_self room)))
  | object ms stop =>
    cases room with
    | zero =>
      rw [value] at h
      cases h
    | succ room =>
      rw [value] at h
      obtain ⟨values, hitems, h⟩ := bind_eq_ok_iff.mp h
      obtain ⟨_, hstop, -⟩ := bind_eq_ok_iff.mp h
      cases Break.settle_eq_ok_iff.mp hstop
      refine isWhole_object (forall_mem_left_of_forall₂ (mapM_eq_ok_iff.mp hitems) ?_)
      intro m k hm
      obtain ⟨name, hname, hm⟩ := bind_eq_ok_iff.mp hm
      obtain ⟨v, hv, -⟩ := bind_eq_ok_iff.mp hm
      exact ⟨⟨name, hname⟩, ih room (Nat.lt_succ_self room) m.2 v hv⟩

end Doc

end LabelFilter.Json
