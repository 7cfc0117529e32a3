import Mathlib.Data.List.Forall2

/-!
# Rows

What holds of rows of anything: rows with separators between them, rows whose members are related
pairwise, and computations along a row that may fail.

## Main definitions

* `SameOutcome` — results that both succeed, or fail with one error

## Main results

* `map_intercalate` — what is lifted over appending is lifted over separators
* `intercalate_append_eq_join` — texts behind others, all with a separator between them
* `find?_eq_some_iff_of_unique` — what is found where there is one such member at most
* `pairwise_idxOf_eraseDups` — a row without its repetitions
* `forall_mem_iff_of_forall₂`, `exists_mem_iff_of_forall₂`, `forall_mem_right_of_forall₂`,
  `forall₂_iff_of_forall₂` — related rows agree on related properties
* `bind_eq_ok_iff`, `mapM_eq_ok_iff` — when a computation succeeds, and with what
* `mapError_eq_ok_iff`, `mapError_eq_error_iff` — the same with the errors renamed
* `mapM_eq_error_iff`, `exists_mapM_eq_ok_iff` — when one along a row fails, and with what
* `mapM_filter` — members that succeed can be left out before or after
* `bind_congr_of_ok`, `mapM_congr`, `foldlM_congr` — computations that go the same way
* `sameOutcome_iff` — results that are told apart by their errors only
-/

namespace LabelFilter

/-! ### Separators -/

/-- What is lifted over appending is lifted over rows with separators. -/
theorem map_intercalate {α β : Type} {f : List α → List β} (hnil : f [] = [])
    (happend : ∀ l l', f (l ++ l') = f l ++ f l') (sep : List α) (ls : List (List α)) :
    f (sep.intercalate ls) = (f sep).intercalate (ls.map f) := by
  induction ls with
  | nil => simpa using hnil
  | cons l ls ih =>
    cases ls with
    | nil => simp
    | cons l' ls =>
      rw [List.intercalate_cons_cons, happend, happend, ih]
      simp only [List.map_cons, List.intercalate_cons_cons]

/-- Texts behind others, all with a separator between them. -/
theorem intercalate_append_eq_join (sep : String) {fs : List String} (hfs : fs ≠ [])
    (gs : List String) :
    sep.intercalate (fs ++ gs) = sep.intercalate fs ++ String.join (gs.map (sep ++ ·)) := by
  induction gs generalizing fs with
  | nil => simp
  | cons g gs ih =>
    rw [List.append_cons, ih (by simp), String.intercalate_append_of_ne_nil hfs (by simp)]
    simp [String.append_assoc]

/-! ### Finding members -/

/-- If one member at most has a property, then this one is found. -/
theorem find?_eq_some_iff_of_unique {α : Type} {p : α → Bool} {as : List α} {a : α}
    (h : ∀ b ∈ as, ∀ b' ∈ as, p b = true → p b' = true → b = b') :
    as.find? p = some a ↔ a ∈ as ∧ p a = true := by
  constructor
  · intro hfind
    exact ⟨List.mem_of_find?_eq_some hfind, List.find?_some hfind⟩
  · rintro ⟨hmem, ha⟩
    obtain ⟨b, hb⟩ := Option.isSome_iff_exists.mp (List.find?_isSome.mpr ⟨a, hmem, ha⟩)
    rw [hb, h b (List.mem_of_find?_eq_some hb) a hmem (List.find?_some hb) ha]

/-! ### Repeated members -/

/-- What is left of a row when repetitions are taken out stands in the order of first occurrences,
also when some members have been left out before. -/
theorem pairwise_idxOf_eraseDups {α : Type} [DecidableEq α] (keep : α → Bool) (as : List α) :
    (as.filter keep).eraseDups.Pairwise fun a b => as.idxOf a < as.idxOf b := by
  induction as generalizing keep with
  | nil => exact .nil
  | cons a as ih =>
    -- Behind `a` all that differs from it stands one place further back.
    have hshift : ∀ keep' : α → Bool, keep' a = false →
        (as.filter keep').eraseDups.Pairwise fun b c => (a :: as).idxOf b < (a :: as).idxOf c := by
      intro keep' ha
      refine (ih keep').imp_of_mem fun {b c} hb hc hlt => ?_
      have hne : ∀ b ∈ (as.filter keep').eraseDups, a ≠ b := by
        rintro b hb rfl
        rw [List.mem_eraseDups, List.mem_filter, ha] at hb
        cases hb.2
      rw [List.idxOf_cons_ne _ (hne b hb), List.idxOf_cons_ne _ (hne c hc)]
      exact Nat.succ_lt_succ hlt
    by_cases ha : keep a = true
    · rw [List.filter_cons_of_pos ha, List.eraseDups_cons, List.filter_filter]
      refine List.pairwise_cons.mpr ⟨fun b hb => ?_, hshift _ (by simp)⟩
      have hne : a ≠ b := by
        rintro rfl
        simp at hb
      rw [List.idxOf_cons_self, List.idxOf_cons_ne _ hne]
      exact Nat.succ_pos _
    · rw [List.filter_cons_of_neg ha]
      exact hshift keep (by simpa using ha)

/-! ### Related rows -/

section

variable {α β : Type} {R : α → β → Prop} {as : List α} {bs : List β} {P : α → Prop} {Q : β → Prop}

theorem forall_mem_iff_of_forall₂ (h : List.Forall₂ R as bs) (hPQ : ∀ a b, R a b → (P a ↔ Q b)) :
    (∀ a ∈ as, P a) ↔ ∀ b ∈ bs, Q b := by
  induction h with
  | nil => simp
  | cons hab _ ih => rw [List.forall_mem_cons, List.forall_mem_cons, ih, hPQ _ _ hab]

theorem forall_mem_right_of_forall₂ (h : List.Forall₂ R as bs) (hQ : ∀ a b, R a b → Q b) :
    ∀ b ∈ bs, Q b := by
  induction h with
  | nil => nofun
  | cons hab _ ih => exact List.forall_mem_cons.mpr ⟨hQ _ _ hab, ih⟩

theorem forall_mem_left_of_forall₂ (h : List.Forall₂ R as bs) (hP : ∀ a b, R a b → P a) :
    ∀ a ∈ as, P a :=
  forall_mem_right_of_forall₂ h.flip fun b a => hP a b

theorem exists_mem_iff_of_forall₂ (h : List.Forall₂ R as bs) (hPQ : ∀ a b, R a b → (P a ↔ Q b)) :
    (∃ a ∈ as, P a) ↔ ∃ b ∈ bs, Q b := by
  induction h with
  | nil => simp
  | cons hab _ ih => rw [List.exists_mem_cons_iff, List.exists_mem_cons_iff, ih, hPQ _ _ hab]

/-- What a row is related to, a related row is related to. -/
theorem forall₂_iff_of_forall₂ {γ : Type} {S : α → γ → Prop} {T : β → γ → Prop} {cs : List γ}
    (h : List.Forall₂ R as bs) (hST : ∀ a b, R a b → ∀ c, S a c ↔ T b c) :
    List.Forall₂ S as cs ↔ List.Forall₂ T bs cs := by
  induction h generalizing cs with
  | nil => simp
  | cons hab _ ih =>
    rw [List.forall₂_cons_left_iff, List.forall₂_cons_left_iff]
    refine exists_congr fun c => exists_congr fun cs' => ?_
    rw [ih, hST _ _ hab c]

end

/-! ### Computations that may fail -/

theorem bind_eq_ok_iff {ε α β : Type} {x : Except ε α} {f : α → Except ε β} {b : β} :
    x >>= f = .ok b ↔ ∃ a, x = .ok a ∧ f a = .ok b := by
  cases x with
  | error e => exact ⟨nofun, fun ⟨_, h, _⟩ => by cases h⟩
  | ok a => exact ⟨fun h => ⟨a, rfl, h⟩, fun ⟨_, h, h'⟩ => by cases h; exact h'⟩

theorem bind_congr_of_ok {ε α β : Type} {x : Except ε α} {f g : α → Except ε β}
    (h : ∀ a, x = .ok a → f a = g a) : x >>= f = x >>= g := by
  cases x with
  | error e => rfl
  | ok a => exact h a rfl

theorem mapError_eq_ok_iff {ε ε' α : Type} {x : Except ε α} {f : ε → ε'} {a : α} :
    x.mapError f = .ok a ↔ x = .ok a := by
  cases x <;> simp [Except.mapError]

theorem mapError_eq_error_iff {ε ε' α : Type} {x : Except ε α} {f : ε → ε'} {e' : ε'} :
    x.mapError f = .error e' ↔ ∃ e, x = .error e ∧ f e = e' := by
  cases x <;> simp [Except.mapError]

theorem mapM_eq_ok_iff {ε α β : Type} {f : α → Except ε β} {as : List α} {bs : List β} :
    as.mapM f = .ok bs ↔ List.Forall₂ (fun a b => f a = .ok b) as bs := by
  induction as generalizing bs with
  | nil =>
    rw [List.mapM_nil, List.forall₂_nil_left_iff]
    exact ⟨fun h => by cases h; rfl, fun h => h ▸ rfl⟩
  | cons a as ih =>
    rw [List.mapM_cons, List.forall₂_cons_left_iff, bind_eq_ok_iff]
    constructor
    · rintro ⟨b, hb, h⟩
      obtain ⟨bs', hbs, h⟩ := bind_eq_ok_iff.mp h
      cases h
      exact ⟨b, bs', hb, ih.mp hbs, rfl⟩
    · rintro ⟨b, bs', hb, hbs, rfl⟩
      exact ⟨b, hb, bind_eq_ok_iff.mpr ⟨bs', ih.mpr hbs, rfl⟩⟩

/-- A computation along a row fails with the error of the first member that fails. -/
theorem mapM_eq_error_iff {ε α β : Type} {f : α → Except ε β} {as : List α} {e : ε} :
    as.mapM f = .error e ↔ ∃ before a after, as = before ++ a :: after ∧
      (∀ b ∈ before, ∃ c, f b = .ok c) ∧ f a = .error e := by
  induction as with
  | nil => exact ⟨nofun, fun ⟨before, a, after, h, _⟩ => by simp at h⟩
  | cons a as ih =>
    rw [List.mapM_cons]
    cases ha : f a with
    | error e' =>
      constructor
      · intro h
        cases h
        exact ⟨[], a, as, rfl, nofun, ha⟩
      · rintro ⟨before, a', after, h, hbefore, ha'⟩
        cases before with
        | nil =>
          cases h
          cases ha.symm.trans ha'
          rfl
        | cons b before =>
          cases h
          obtain ⟨c, hc⟩ := hbefore _ List.mem_cons_self
          cases ha.symm.trans hc
    | ok c =>
      have hrest : (do return c :: (← as.mapM f) : Except ε (List β)) = .error e ↔
          as.mapM f = .error e := by
        cases as.mapM f <;> simp [bind, Except.bind, pure, Except.pure]
      refine hrest.trans (ih.trans ?_)
      constructor
      · rintro ⟨before, a', after, rfl, hbefore, ha'⟩
        exact ⟨a :: before, a', after, rfl, List.forall_mem_cons.mpr ⟨⟨c, ha⟩, hbefore⟩, ha'⟩
      · rintro ⟨before, a', after, h, hbefore, ha'⟩
        cases before with
        | nil =>
          cases h
          cases ha.symm.trans ha'
        | cons b before =>
          cases h
          exact ⟨before, a', after, rfl, (List.forall_mem_cons.mp hbefore).2, ha'⟩

theorem exists_mapM_eq_ok_iff {ε α β : Type} {f : α → Except ε β} {as : List α} :
    (∃ bs, as.mapM f = .ok bs) ↔ ∀ a ∈ as, ∃ b, f a = .ok b := by
  simp only [mapM_eq_ok_iff]
  induction as with
  | nil => exact ⟨fun _ => nofun, fun _ => ⟨[], .nil⟩⟩
  | cons a as ih =>
    rw [List.forall_mem_cons, ← ih]
    constructor
    · rintro ⟨_, _ | ⟨ha, has⟩⟩
      exact ⟨⟨_, ha⟩, _, has⟩
    · rintro ⟨⟨b, ha⟩, bs, has⟩
      exact ⟨b :: bs, .cons ha has⟩

/-- Members that are left out of a row might as well be left out of the result, if the computation
succeeds on each of them. -/
theorem mapM_filter {ε α β : Type} {f : α → Except ε β} {keep : α → Bool} {keep' : β → Bool}
    {as : List α} (hkeep : ∀ a b, f a = .ok b → keep' b = keep a)
    (has : ∀ a ∈ as, keep a = false → ∃ b, f a = .ok b) :
    (as.filter keep).mapM f = (as.mapM f).map (List.filter keep') := by
  induction as with
  | nil => rfl
  | cons a as ih =>
    obtain ⟨ha, has⟩ := List.forall_mem_cons.mp has
    have hrest : (a :: as).mapM f = f a >>= fun b => (as.mapM f).map (b :: ·) := by
      rw [List.mapM_cons]
      exact bind_congr_of_ok fun b _ => by cases as.mapM f <;> rfl
    rw [hrest]
    cases hk : keep a with
    | true =>
      rw [List.filter_cons_of_pos hk, List.mapM_cons, ih has]
      cases hb : f a with
      | error e => rfl
      | ok b =>
        have hb' : keep' b = true := (hkeep a b hb).trans hk
        cases as.mapM f with
        | error e => rfl
        | ok bs => exact congrArg Except.ok (List.filter_cons_of_pos hb').symm
    | false =>
      obtain ⟨b, hb⟩ := ha hk
      have hb' : ¬ keep' b = true := by simp [hkeep a b hb, hk]
      rw [List.filter_cons_of_neg (by simp [hk]), ih has, hb]
      cases as.mapM f with
      | error e => rfl
      | ok bs => exact congrArg Except.ok (List.filter_cons_of_neg hb').symm

theorem mapM_congr {ε α β : Type} {f g : α → Except ε β} {as : List α}
    (h : ∀ a ∈ as, f a = g a) : as.mapM f = as.mapM g := by
  induction as with
  | nil => rfl
  | cons a as ih =>
    obtain ⟨ha, has⟩ := List.forall_mem_cons.mp h
    rw [List.mapM_cons, List.mapM_cons, ha, ih has]

theorem foldlM_congr {ε α σ : Type} {f g : σ → α → Except ε σ} {as : List α}
    (h : ∀ a ∈ as, ∀ s, f s a = g s a) (s : σ) : as.foldlM f s = as.foldlM g s := by
  induction as generalizing s with
  | nil => rfl
  | cons a as ih =>
    obtain ⟨ha, has⟩ := List.forall_mem_cons.mp h
    rw [List.foldlM_cons, List.foldlM_cons, ha]
    exact bind_congr_of_ok fun s' _ => ih has s'

/-- Results that tell the same: both succeed, or both fail and with one error. -/
inductive SameOutcome {ε α β : Type} : Except ε α → Except ε β → Prop where
  | ok (a : α) (b : β) : SameOutcome (.ok a) (.ok b)
  | error (e : ε) : SameOutcome (.error e) (.error e)

theorem sameOutcome_iff {ε α β : Type} {x : Except ε α} {y : Except ε β} :
    SameOutcome x y ↔ ∀ e, x = .error e ↔ y = .error e := by
  constructor
  · rintro (⟨a, b⟩ | e) e' <;> simp
  · intro h
    cases x with
    | error e =>
      rw [(h e).mp rfl]
      exact .error e
    | ok a =>
      cases y with
      | error e => cases (h e).mpr rfl
      | ok b => exact .ok a b

end LabelFilter
