import LabelFilter.Json.Decode
import LabelFilter.Proofs.Rows

/-!
# Depth of documents

A value that is kept may only have so many lists and objects inside each other. The room that there
is for them matters to no tree that has enough of it, so two decoders that differ in this room only
agree on trees of a bounded depth.

## Main definitions

* `Doc.Within` — trees of a bounded depth
* `Json.AgreeWithin` — decoders that agree on them

## Main results

* `agreeWithin_value` — keeping a value whole
* `AgreeWithin.asOptional`, `AgreeWithin.asList`, `AgreeWithin.asRecord` — decoders that are put
  together
-/

namespace LabelFilter.Json

/-- Trees with at most `room` lists and objects inside each other. -/
def Doc.Within (room : Nat) (d : Doc) : Prop :=
  match d, room with
  | .list .., 0 | .object .., 0 => False
  | .list items _, room + 1 => ∀ d ∈ items, d.Within room
  | .object members _, room + 1 => ∀ m ∈ members, m.2.Within room
  | _, _ => True

/-- Two decoders agree on all trees of a bounded depth. -/
def AgreeWithin {α : Type} (n : Nat) (f g : Decoder α) : Prop := ∀ d : Doc, d.Within n → f d = g d

/-- Keeping a value whole does not depend on the room, if there is enough of it. -/
theorem agreeWithin_value {n room room' : Nat} (h : n ≤ room) (h' : n ≤ room') :
    AgreeWithin n (Doc.value room) (Doc.value room') := by
  induction n generalizing room room' with
  | zero =>
    intro d hd
    cases d with
    | list | object => exact hd.elim
    | word w => cases w <;> cases room <;> cases room' <;> rfl
    | _ => cases room <;> cases room' <;> rfl
  | succ n ih =>
    obtain ⟨room, rfl⟩ := Nat.exists_eq_add_of_le' (Nat.lt_of_lt_of_le (Nat.succ_pos n) h)
    obtain ⟨room', rfl⟩ := Nat.exists_eq_add_of_le' (Nat.lt_of_lt_of_le (Nat.succ_pos n) h')
    have hroom := Nat.le_of_succ_le_succ h
    have hroom' := Nat.le_of_succ_le_succ h'
    intro d hd
    cases d with
    | list items stop =>
      have hitems : items.mapM (Doc.value room) = items.mapM (Doc.value room') :=
        mapM_congr fun d hmem => ih hroom hroom' d (hd d hmem)
      rw [Doc.value, Doc.value, hitems]
    | object members stop =>
      have hmembers : members.mapM (fun m => do return (← m.1.decode, ← m.2.value room)) =
          members.mapM fun m => do return (← m.1.decode, ← m.2.value room') :=
        mapM_congr fun m hmem => by rw [ih hroom hroom' m.2 (hd m hmem)]
      rw [Doc.value, Doc.value, hmembers]
    | word w => cases w <;> rfl
    | _ => rfl

namespace AgreeWithin

variable {α : Type} {n : Nat} {f g : Decoder α}

theorem asOptional (h : AgreeWithin n f g) :
    AgreeWithin n (Doc.asOptional f) (Doc.asOptional g) := by
  intro d hd
  unfold Doc.asOptional
  split
  · rfl
  · rfl
  · rw [h d hd]

theorem asList (h : AgreeWithin n f g) : AgreeWithin (n + 1) (Doc.asList f) (Doc.asList g) := by
  intro d hd
  cases d with
  | list items stop =>
    rw [Doc.asList, Doc.asList, mapM_congr fun d hmem => h d (hd d hmem)]
  | _ => rfl

/-- Values with named fields, which may be items of a list or members of an object. -/
theorem asRecord {type : String} {positional positional' : List Doc → Option Break → Except Fault α}
    {named named' : List (Lexeme × Doc) → Option Break → Except Fault α}
    (hlist : ∀ items stop, (∀ d ∈ items, d.Within n) →
      positional items stop = positional' items stop)
    (hobject : ∀ ms stop, (∀ m ∈ ms, m.2.Within n) → named ms stop = named' ms stop) :
    AgreeWithin (n + 1) (Doc.asRecord type positional named)
      (Doc.asRecord type positional' named') := by
  intro d hd
  cases d with
  | list items stop => exact hlist items stop hd
  | object ms stop => exact hobject ms stop hd
  | _ => rfl

theorem nextOr (h : AgreeWithin n f g) (default : Except Fault α) {items : List Doc}
    (hitems : ∀ d ∈ items, d.Within n) (stop : Option Break) :
    Doc.nextOr default f items stop = Doc.nextOr default g items stop := by
  cases items with
  | nil => cases stop <;> rfl
  | cons d ds =>
    have hd := h d (hitems d List.mem_cons_self)
    simp only [Doc.nextOr, Doc.item?, bind, Except.bind, hd]

theorem once (h : AgreeWithin n f g) (name : String) (slot : Option α) {d : Doc} (hd : d.Within n) :
    Doc.once name slot f d = Doc.once name slot g d := by
  cases slot with
  | none => rw [Doc.once, Doc.once, h d hd]
  | some a => rfl

end AgreeWithin

/-- The fields that are left behind the next one are among those that were there. -/
theorem mem_of_nextOr {α : Type} {default : Except Fault α} {f : Decoder α} {items rest : List Doc}
    {stop : Option Break} {a : α} (h : Doc.nextOr default f items stop = .ok (a, rest)) :
    ∀ d ∈ rest, d ∈ items := by
  obtain ⟨next, hnext, h⟩ := bind_eq_ok_iff.mp h
  cases next with
  | none =>
    obtain ⟨a', -, h⟩ := bind_eq_ok_iff.mp h
    cases h
    nofun
  | some p =>
    obtain ⟨a', -, h⟩ := bind_eq_ok_iff.mp h
    cases h
    cases items with
    | nil =>
      obtain ⟨-, -, h⟩ := bind_eq_ok_iff.mp hnext
      cases h
    | cons d ds =>
      cases hnext
      exact fun d' => List.mem_cons_of_mem d

theorem members_congr {σ : Type} {step step' : σ → String → Doc → Except Fault σ} {init : σ}
    {ms : List (Lexeme × Doc)} {stop : Option Break}
    (h : ∀ m ∈ ms, ∀ s name, step s name m.2 = step' s name m.2) :
    Doc.members step init ms stop = Doc.members step' init ms stop := by
  unfold Doc.members
  rw [foldlM_congr fun m hm s => bind_congr_of_ok fun name _ => h m hm s name]

end LabelFilter.Json
