import LabelFilter.Json.Decode
import LabelFilter.Proofs.Rows
import Mathlib.Data.List.Induction

/-!
# Fields of an object

The members of an object are read one after the other into a record. A field may be stated once at
most, wherever it stands among the members, and no other member has a say in it. What a whole run
over the members leaves in a field follows from what one step does to it; so does that a run
succeeds, because a step only fails at a member that is wrong by itself or repeats a field.

## Main definitions

* `Json.Once` — values of a field that may be left out and must not be repeated
* `Doc.named` — the values of the members with a name
* `Json.Slot`, `Slot.FilledBy` — fields, and the steps that fill them
* `Doc.names`, `Doc.others` — the names of members, and the members without certain names
* `Json.Log`, `Log.GrownBy` — what is kept of such members, and the steps that keep it

## Main results

* `Doc.members_induction` — what each step over the members keeps, a run keeps
* `Slot.FilledBy.members` — what a run over the members leaves in a field
* `Log.GrownBy.members` — what a run over the members keeps of the others
* `Doc.exists_members_eq_ok` — when such a run succeeds
-/

namespace LabelFilter.Json

/-- At most one value is stated, and it is `P`-related to what is read. -/
inductive Once {α β : Type} (P : β → α → Prop) : List β → Option α → Prop where
  | absent : Once P [] none
  | stated {b : β} {a : α} (h : P b a) : Once P [b] (some a)

theorem Once.iff_of_forall₂ {α β γ : Type} {P : β → α → Prop} {Q : γ → α → Prop}
    {R : β → γ → Prop} {bs : List β} {cs : List γ} (h : List.Forall₂ R bs cs)
    (hPQ : ∀ b c, R b c → ∀ a, P b a ↔ Q c a) (v : Option α) : Once P bs v ↔ Once Q cs v := by
  constructor
  · rintro (_ | hP)
    · cases h
      exact .absent
    · rcases h with _ | ⟨hR, _ | _⟩
      exact .stated ((hPQ _ _ hR _).mp hP)
  · rintro (_ | hQ)
    · cases h
      exact .absent
    · rcases h with _ | ⟨hR, _ | _⟩
      exact .stated ((hPQ _ _ hR _).mpr hQ)

theorem Once.exists_eq_singleton {α β : Type} {P : β → α → Prop} {bs : List β} {a : α}
    (h : Once P bs (some a)) : ∃ b, bs = [b] ∧ P b a := by
  cases h with | stated h => exact ⟨_, rfl, h⟩

/-- The values that a decoder reads. -/
def Decoder.Reads {α : Type} (decode : Decoder α) (d : Doc) (a : α) : Prop := decode d = .ok a

/-- A field is read to one value. -/
theorem Once.unique {α : Type} {decode : Decoder α} {ds : List Doc} {v v' : Option α}
    (h : Once decode.Reads ds v) (h' : Once decode.Reads ds v') : v = v' := by
  cases h with
  | absent =>
    cases h'
    rfl
  | stated h =>
    cases h' with | stated h' => ?_
    exact congrArg some (Except.ok.inj (h.symm.trans h'))

/-- A field of a record of type `σ`, with the name of the members that state it. -/
structure Slot (σ α : Type) where
  name : String
  get : σ → Option α
  decode : Decoder α

/-- A step that fills a slot at members with its name, unless it has been filled, and leaves it
alone at all others. -/
structure Slot.FilledBy {σ α : Type} (slot : Slot σ α)
    (step : σ → String → Doc → Except Fault σ) : Prop where
  own {s s' : σ} {d : Doc} (h : step s slot.name d = .ok s') :
    slot.get s = none ∧ ∃ a, slot.decode d = .ok a ∧ slot.get s' = some a
  other {s s' : σ} {name : String} {d : Doc} (hname : name ≠ slot.name)
    (h : step s name d = .ok s') : slot.get s' = slot.get s

namespace Doc

variable {σ : Type} {step : σ → String → Doc → Except Fault σ} {init : σ}

/-- The values of the members with a name. -/
def named (name : String) (ms : List (Lexeme × Doc)) : List Doc :=
  (ms.filter fun m => m.1.decode.toOption = some name).map Prod.snd

theorem named_append (name : String) (ms ms' : List (Lexeme × Doc)) :
    named name (ms ++ ms') = named name ms ++ named name ms' := by
  simp [named]

theorem named_cons_of_eq {name : String} {m : Lexeme × Doc} (h : m.1.decode = .ok name)
    (ms : List (Lexeme × Doc)) : named name (m :: ms) = m.2 :: named name ms := by
  simp [named, h, Except.toOption]

theorem named_cons_of_ne {name name' : String} {m : Lexeme × Doc} (h : m.1.decode = .ok name')
    (hne : name' ≠ name) (ms : List (Lexeme × Doc)) : named name (m :: ms) = named name ms := by
  simp [named, h, Except.toOption, hne]

/-- The members that have none of some names. -/
def others (names : List String) (ms : List (Lexeme × Doc)) : List (Lexeme × Doc) :=
  ms.filter fun m => m.1.decode.toOption.all (· ∉ names)

theorem others_cons_of_mem {names : List String} {m : Lexeme × Doc} {name : String}
    (h : m.1.decode = .ok name) (hname : name ∈ names) (ms : List (Lexeme × Doc)) :
    others names (m :: ms) = others names ms := by
  simp [others, h, Except.toOption, hname]

theorem others_cons_of_not_mem {names : List String} {m : Lexeme × Doc} {name : String}
    (h : m.1.decode = .ok name) (hname : name ∉ names) (ms : List (Lexeme × Doc)) :
    others names (m :: ms) = m :: others names ms := by
  simp [others, h, Except.toOption, hname]

theorem mem_others_of_not_mem {names : List String} {ms : List (Lexeme × Doc)} {m : Lexeme × Doc}
    {name : String} (hm : m ∈ ms) (h : m.1.decode = .ok name) (hname : name ∉ names) :
    m ∈ others names ms := by
  simp [others, hm, h, Except.toOption, hname]

/-- The names of members that can be read, in their order. -/
def names (ms : List (Lexeme × Doc)) : List String := ms.filterMap fun m => m.1.decode.toOption

theorem eq_names_of_forall₂ {ms : List (Lexeme × Doc)} {ns : List String}
    (h : List.Forall₂ (fun m n => ∃ name, m.1.decode = .ok name ∧ n = name) ms ns) :
    ns = names ms := by
  induction h with
  | nil => rfl
  | cons hm _ ih =>
    obtain ⟨name, hname, rfl⟩ := hm
    rw [names, List.filterMap_cons_some (by rw [hname]; rfl), ← names, ← ih]

theorem names_others (passed : List String) (ms : List (Lexeme × Doc)) :
    names (others passed ms) = (names ms).filter (· ∉ passed) := by
  rw [names, others, List.filterMap_filter, names, List.filter_filterMap]
  refine congrArg (List.filterMap · ms) (funext fun m => ?_)
  cases m.1.decode with
  | error e => rfl
  | ok name => by_cases hname : name ∈ passed <;> simp [Except.toOption, Option.filter, hname]

theorem unexpected_ne_ok {α : Type} {expected : String} {d : Doc} {a : α} :
    (d.unexpected expected : Except Fault α) ≠ .ok a := by
  intro h
  obtain ⟨found, -, h⟩ := bind_eq_ok_iff.mp h
  cases h

theorem once_eq_ok_iff {α : Type} {name : String} {slot v : Option α} {decode : Decoder α}
    {d : Doc} : once name slot decode d = .ok v ↔
      slot = none ∧ ∃ a, decode d = .ok a ∧ v = some a := by
  cases slot with
  | some a => simp [once]
  | none => cases h : decode d <;> simp [once, h, Except.map, eq_comm]

/-- One more member at the beginning. -/
theorem members_cons_of_ok {m : Lexeme × Doc} {name : String} (h : m.1.decode = .ok name)
    (ms : List (Lexeme × Doc)) (stop : Option Break) :
    members step init (m :: ms) stop =
      step init name m.2 >>= fun s => members step s ms stop := by
  rw [members, List.foldlM_cons, h]
  exact bind_assoc (step init name m.2) _ _

/-- One more member at the end. -/
theorem members_concat (ms : List (Lexeme × Doc)) (m : Lexeme × Doc) (stop : Option Break) :
    members step init (ms ++ [m]) stop = do
      let s ← members step init ms none
      let s ← step s (← m.1.decode) m.2
      Break.settle stop
      return s := by
  simp only [members, List.foldlM_append, List.foldlM_cons, List.foldlM_nil, bind_assoc]
  refine bind_congr_of_ok fun s _ => ?_
  show _ = (do let s ← step s (← m.1.decode) m.2; Break.settle stop; return s)
  simp only [pure_bind]

/-- What holds at the beginning of a run over the members, and is kept by each step, holds at its
end. -/
@[elab_as_elim]
theorem members_induction {motive : List (Lexeme × Doc) → σ → Prop} {ms : List (Lexeme × Doc)}
    {stop : Option Break} {s : σ} (h : members step init ms stop = .ok s) (hinit : motive [] init)
    (hstep : ∀ ms m name s s', motive ms s → m.1.decode = .ok name → step s name m.2 = .ok s' →
      motive (ms ++ [m]) s') : motive ms s := by
  induction ms using List.reverseRecOn generalizing s stop with
  | nil =>
    obtain ⟨s₁, hs₁, h⟩ := bind_eq_ok_iff.mp h
    obtain ⟨-, -, h⟩ := bind_eq_ok_iff.mp h
    cases hs₁
    cases h
    exact hinit
  | append_singleton ms m ih =>
    rw [members_concat] at h
    obtain ⟨s₁, hs₁, h⟩ := bind_eq_ok_iff.mp h
    obtain ⟨name, hname, h⟩ := bind_eq_ok_iff.mp h
    obtain ⟨s₂, hs₂, h⟩ := bind_eq_ok_iff.mp h
    obtain ⟨-, -, h⟩ := bind_eq_ok_iff.mp h
    cases h
    exact hstep ms m name s₁ _ (ih hs₁) hname hs₂

/-- A run over the members succeeds if no member stands in its way. -/
theorem exists_members_eq_ok {ms : List (Lexeme × Doc)}
    (h : ∀ before m after s, ms = before ++ m :: after →
      members step init before none = .ok s →
      ∃ name, m.1.decode = .ok name ∧ ∃ s', step s name m.2 = .ok s') :
    ∃ s, members step init ms none = .ok s := by
  induction ms using List.reverseRecOn with
  | nil => exact ⟨init, rfl⟩
  | append_singleton ms m ih =>
    obtain ⟨s, hs⟩ := ih fun before m' after s hms => h before m' (after ++ [m]) s (by simp [hms])
    obtain ⟨name, hname, s', hs'⟩ := h ms m [] s rfl hs
    rw [members_concat, hs]
    refine ⟨s', ?_⟩
    show (do let s ← step s (← m.1.decode) m.2; Break.settle none; return s) = _
    rw [hname]
    show (do let s ← step s name m.2; Break.settle none; return s) = _
    rw [hs']
    rfl

end Doc

/-! ### Slots -/

/-- A step that stores the value of a member in its own slot. -/
theorem Slot.own_of_once {σ α : Type} {slot : Slot σ α} {s s' : σ} {d : Doc}
    {put : Option α → σ}
    (h : (do return put (← Doc.once slot.name (slot.get s) slot.decode d)) = .ok s')
    (hput : ∀ v, slot.get (put v) = v) :
    slot.get s = none ∧ ∃ a, slot.decode d = .ok a ∧ slot.get s' = some a := by
  obtain ⟨v, hv, h⟩ := bind_eq_ok_iff.mp h
  cases h
  rw [hput]
  exact Doc.once_eq_ok_iff.mp hv

/-- Such a step succeeds if the slot is empty and the value can be read. -/
theorem Slot.exists_of_once {σ α : Type} {slot : Slot σ α} {s : σ} {d : Doc}
    (h : slot.get s = none ∧ ∃ a, slot.decode d = .ok a) (put : Option α → σ) :
    ∃ s', (do return put (← Doc.once slot.name (slot.get s) slot.decode d)) = Except.ok s' := by
  obtain ⟨hnone, a, ha⟩ := h
  have honce : Doc.once slot.name (slot.get s) slot.decode d = .ok (some a) :=
    Doc.once_eq_ok_iff.mpr ⟨hnone, a, ha, rfl⟩
  exact ⟨put (some a), bind_eq_ok_iff.mpr ⟨some a, honce, rfl⟩⟩

namespace Slot.FilledBy

variable {σ α : Type} {slot : Slot σ α} {step : σ → String → Doc → Except Fault σ} {init : σ}

/-- **What a run over the members leaves in a field.** A member fills the field if it has its name,
and then no member before it has. -/
theorem members (h : slot.FilledBy step) (hinit : slot.get init = none)
    {ms : List (Lexeme × Doc)} {stop : Option Break} {s : σ}
    (hms : Doc.members step init ms stop = .ok s) :
    Once slot.decode.Reads (Doc.named slot.name ms) (slot.get s) := by
  refine Doc.members_induction hms (by rw [hinit]; exact .absent) ?_
  intro ms m name s₁ s₂ hbefore hname hs₂
  rw [Doc.named_append]
  by_cases hown : name = slot.name
  · subst hown
    obtain ⟨hnone, a, ha, hsome⟩ := h.own hs₂
    rw [hnone] at hbefore
    rw [Doc.named_cons_of_eq hname, hsome]
    generalize Doc.named slot.name ms = ds at hbefore ⊢
    cases hbefore
    exact .stated ha
  · rw [Doc.named_cons_of_ne hname hown, h.other hown hs₂]
    simpa [Doc.named] using hbefore

/-- At a member that states a field, the field has not been filled, and its value can be read. -/
theorem ready (h : slot.FilledBy step) (hinit : slot.get init = none)
    {before after : List (Lexeme × Doc)} {m : Lexeme × Doc} {s : σ} {v : Option α}
    (honce : Once slot.decode.Reads (Doc.named slot.name (before ++ m :: after)) v)
    (hbefore : Doc.members step init before none = .ok s) (hname : m.1.decode = .ok slot.name) :
    slot.get s = none ∧ ∃ a, slot.decode m.2 = .ok a := by
  have hget := h.members hinit hbefore
  rw [Doc.named_append, Doc.named_cons_of_eq hname] at honce
  generalize Doc.named slot.name before = ds at honce hget
  generalize slot.get s = filled at hget ⊢
  rcases ds with _ | ⟨d, ds⟩
  · rw [List.nil_append] at honce
    cases hget
    generalize Doc.named slot.name after = ds at honce
    cases honce with
    | stated ha => exact ⟨rfl, _, ha⟩
  · cases ds <;> cases honce

end Slot.FilledBy

/-! ### Members that no field asks for -/

/-- A row in a record of type `σ` that keeps something of each member that has none of some names,
the last one first. -/
structure Log (σ β : Type) where
  passed : List String
  get : σ → List β
  /-- What is kept of a member. -/
  entry : String → Doc → β → Prop

/-- A step that adds one entry to a log, unless the member is passed by. -/
structure Log.GrownBy {σ β : Type} (log : Log σ β)
    (step : σ → String → Doc → Except Fault σ) : Prop where
  own {s s' : σ} {name : String} {d : Doc} (hname : name ∈ log.passed)
    (h : step s name d = .ok s') : log.get s' = log.get s
  other {s s' : σ} {name : String} {d : Doc} (hname : name ∉ log.passed)
    (h : step s name d = .ok s') : ∃ b, log.entry name d b ∧ log.get s' = b :: log.get s

/-- **What a run over the members keeps of the others**: one entry of each, in their order. -/
theorem Log.GrownBy.members {σ β : Type} {log : Log σ β}
    {step : σ → String → Doc → Except Fault σ} {init : σ} (h : log.GrownBy step)
    (hinit : log.get init = []) {ms : List (Lexeme × Doc)} {stop : Option Break} {s : σ}
    (hms : Doc.members step init ms stop = .ok s) :
    List.Forall₂ (fun m b => ∃ name, m.1.decode = .ok name ∧ log.entry name m.2 b)
      (Doc.others log.passed ms) (log.get s).reverse := by
  refine Doc.members_induction hms ?_ ?_
  · rw [hinit]
    exact .nil
  · intro ms m name s₁ s₂ hbefore hname hs₂
    rw [Doc.others, List.filter_append, ← Doc.others, ← Doc.others]
    by_cases hown : name ∈ log.passed
    · rw [Doc.others_cons_of_mem hname hown, h.own hown hs₂]
      simpa [Doc.others] using hbefore
    · obtain ⟨b, hb, hgrown⟩ := h.other hown hs₂
      rw [Doc.others_cons_of_not_mem hname hown, hgrown, List.reverse_cons]
      exact List.rel_append hbefore (.cons ⟨name, hname, hb⟩ .nil)

end LabelFilter.Json
