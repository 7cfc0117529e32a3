import Mathlib.Data.List.TakeWhile
import LabelFilter.Proofs.Rows
import LabelFilter.Text.Blank
import LabelFilter.Text.Letters

/-!
# Spellings of words

A word may be written in any case of its ASCII letters and with blanks around it. No other
difference is passed over: not a letter beyond ASCII that looks like one of its letters or has it as
its other case, not a blank inside, and nothing more or less at either end.

## Main definitions

* `Text.IsWordStart`, `Text.IsWordRest`, `Text.IsWord` — words, by ranges of ASCII characters
* `Text.SameLetter`, `Text.SameLetters` — the same up to the case of ASCII letters
* `Text.Spells` — the spellings of a word

## Main results

* `Text.toUpper_eq_toUpper_iff`, `Text.upper_eq_upper_iff` — comparing in upper case is comparing
  letter by letter
* `Text.exists_eq_append_trimChars`, `Text.trimChars_of_blank_ends` — trimming takes blank ends off
* `Text.spells_iff` — a word is spelled by the texts that trimming leaves its letters of
-/

namespace LabelFilter.Text

/-! ### Words -/

/-- The characters that begin a word: `[A-Za-z_]`. -/
def IsWordStart (c : Char) : Prop := ('A' ≤ c ∧ c ≤ 'Z') ∨ ('a' ≤ c ∧ c ≤ 'z') ∨ c = '_'

/-- The characters that go on with a word: `[A-Za-z0-9_]`. -/
def IsWordRest (c : Char) : Prop := IsWordStart c ∨ ('0' ≤ c ∧ c ≤ '9')

instance : DecidablePred IsWordStart := fun c =>
  inferInstanceAs (Decidable (('A' ≤ c ∧ c ≤ 'Z') ∨ ('a' ≤ c ∧ c ≤ 'z') ∨ c = '_'))

instance : DecidablePred IsWordRest := fun c =>
  inferInstanceAs (Decidable (IsWordStart c ∨ ('0' ≤ c ∧ c ≤ '9')))

/-- The words: `[A-Za-z_][A-Za-z0-9_]*`. -/
def IsWord (s : String) : Prop :=
  ∃ c cs, s.toList = c :: cs ∧ IsWordStart c ∧ ∀ e ∈ cs, IsWordRest e

theorem le_iff_toNat_le {c d : Char} : c ≤ d ↔ c.toNat ≤ d.toNat := Iff.rfl

/-- No character of a word is blank. -/
theorem IsWordRest.isBlank_eq_false {c : Char} (h : IsWordRest c) : isBlank c = false := by
  cases hblank : isBlank c with
  | false => rfl
  | true =>
    simp only [IsWordRest, IsWordStart, le_iff_toNat_le, ← Char.toNat_inj, Char.reduceToNat] at h
    simp only [isBlank, blankRanges, List.any_cons, List.any_nil, Bool.or_eq_true,
      Bool.and_eq_true, decide_eq_true_eq, Bool.false_eq_true, or_false] at hblank
    omega

/-! ### Letters -/

/-- The same character, or one ASCII letter in its two cases. -/
def SameLetter (c d : Char) : Prop :=
  c = d ∨ ('A' ≤ c ∧ c ≤ 'Z' ∧ d.toNat = c.toNat + 32) ∨
    ('A' ≤ d ∧ d ≤ 'Z' ∧ c.toNat = d.toNat + 32)

/-- Texts that differ in the case of ASCII letters only. -/
def SameLetters (s t : String) : Prop := List.Forall₂ SameLetter s.toList t.toList

theorem toNat_toUpper (c : Char) :
    c.toUpper.toNat = if 97 ≤ c.toNat ∧ c.toNat ≤ 122 then c.toNat - 32 else c.toNat := by
  have hlower : ('a'.val ≤ c.val ∧ c.val ≤ 'z'.val) ↔ 97 ≤ c.toNat ∧ c.toNat ≤ 122 := Iff.rfl
  unfold Char.toUpper
  by_cases h : 97 ≤ c.toNat ∧ c.toNat ≤ 122
  · rw [dif_pos (hlower.mpr h), if_pos h]
    -- What is added is negative, so the sum wraps round.
    have hval : ('A'.val - 'a'.val).toNat = 2 ^ 32 - 32 := by decide
    have hc : c.val.toNat = c.toNat := rfl
    show (c.val + ('A'.val - 'a'.val)).toNat = _
    rw [UInt32.toNat_add, hval]
    omega
  · rw [dif_neg (hlower.not.mpr h), if_neg h]

/-- Two characters have one upper-case form if they are the same up to the case of ASCII letters. -/
theorem toUpper_eq_toUpper_iff {c d : Char} : c.toUpper = d.toUpper ↔ SameLetter c d := by
  rw [← Char.toNat_inj, toNat_toUpper, toNat_toUpper, SameLetter, ← Char.toNat_inj]
  simp only [le_iff_toNat_le, Char.reduceToNat]
  split_ifs <;> omega

theorem upper_eq_upper_iff {s t : String} : upper s = upper t ↔ SameLetters s t := by
  rw [upper, upper, String.ofList_inj, SameLetters, ← List.forall₂_eq_eq_eq,
    List.forall₂_map_left_iff, List.forall₂_map_right_iff]
  simp only [toUpper_eq_toUpper_iff]

theorem SameLetter.isWordRest_iff {c d : Char} (h : SameLetter c d) :
    IsWordRest c ↔ IsWordRest d := by
  simp only [SameLetter, IsWordRest, IsWordStart, le_iff_toNat_le, ← Char.toNat_inj,
    Char.reduceToNat] at *
  omega

/-- What has the letters of a word is made of the characters of words. -/
theorem SameLetters.isWordRest {s word : String} (h : SameLetters s word)
    (hword : ∀ c ∈ word.toList, IsWordRest c) : ∀ c ∈ s.toList, IsWordRest c :=
  (forall_mem_iff_of_forall₂ h fun _ _ => SameLetter.isWordRest_iff).mpr hword

/-! ### Blank ends -/

/-- What trimming takes off is blank. -/
theorem exists_eq_append_trimChars (cs : List Char) : ∃ front back,
    cs = front ++ trimChars cs ++ back ∧ (∀ c ∈ front, isBlank c = true) ∧
      ∀ c ∈ back, isBlank c = true := by
  let inner := cs.dropWhile isBlank
  refine ⟨cs.takeWhile isBlank, (inner.reverse.takeWhile isBlank).reverse, ?_, ?_, ?_⟩
  · have hinner : trimChars cs ++ (inner.reverse.takeWhile isBlank).reverse = inner := by
      rw [trimChars, ← List.reverse_append, List.takeWhile_append_dropWhile, List.reverse_reverse]
    rw [List.append_assoc, hinner, List.takeWhile_append_dropWhile]
  · exact fun c => List.mem_takeWhile_imp
  · intro c hc
    exact List.mem_takeWhile_imp (List.mem_reverse.mp hc)

/-- Blanks that are put around a text are trimmed off with those that it has. -/
theorem trimChars_of_blank_ends {front back : List Char} (hfront : ∀ c ∈ front, isBlank c = true)
    (hback : ∀ c ∈ back, isBlank c = true) (core : List Char) :
    trimChars (front ++ core ++ back) = trimChars core := by
  by_cases hcore : ∀ c ∈ core, isBlank c = true
  · rw [trimChars_eq_nil_iff.mpr hcore, trimChars_eq_nil_iff]
    intro c hc
    rw [List.append_assoc, List.mem_append, List.mem_append] at hc
    exact hc.elim (hfront c) (·.elim (hcore c) (hback c))
  have hne : ¬ (core.dropWhile isBlank).isEmpty = true := by
    rw [List.isEmpty_iff]
    exact fun h => hcore (dropWhile_isBlank_eq_nil_iff.mp h)
  have hback' : ∀ c ∈ back.reverse, isBlank c = true := fun c hc => hback c (List.mem_reverse.mp hc)
  rw [trimChars, List.append_assoc, List.dropWhile_append_of_pos hfront, List.dropWhile_append,
    if_neg hne, List.reverse_append, List.dropWhile_append_of_pos hback', trimChars]

/-- Trimming takes off all blanks around a text without blanks. -/
theorem trimChars_append {front core back : List Char} (hfront : ∀ c ∈ front, isBlank c = true)
    (hcore : ∀ c ∈ core, isBlank c = false) (hback : ∀ c ∈ back, isBlank c = true) :
    trimChars (front ++ core ++ back) = core := by
  rw [trimChars_of_blank_ends hfront hback]
  refine trimChars_eq_self (fun c hc => ?_) fun c hc => ?_
  · exact hcore c (List.mem_of_mem_head? hc)
  · exact hcore c (List.mem_of_getLast? hc)

/-! ### Spellings -/

/-- The spellings of a word: its letters in any case, with blanks around them. -/
def Spells (s word : String) : Prop :=
  ∃ front core back, s = front ++ core ++ back ∧ (∀ c ∈ front.toList, isBlank c = true) ∧
    (∀ c ∈ back.toList, isBlank c = true) ∧ SameLetters core word

/-- A word is spelled by the texts that trimming leaves its letters of. -/
theorem spells_iff {s word : String} (hword : ∀ c ∈ word.toList, IsWordRest c) :
    Spells s word ↔ SameLetters (trim s) word := by
  constructor
  · rintro ⟨front, core, back, rfl, hfront, hback, hcore⟩
    have hblank : ∀ c ∈ core.toList, isBlank c = false := fun c hc =>
      (hcore.isWordRest hword c hc).isBlank_eq_false
    have htrim : trim (front ++ core ++ back) = core := by
      rw [trim, String.toList_append, String.toList_append, trimChars_append hfront hblank hback,
        String.ofList_toList]
    rwa [htrim]
  · intro h
    obtain ⟨front, back, hs, hfront, hback⟩ := exists_eq_append_trimChars s.toList
    refine ⟨String.ofList front, trim s, String.ofList back, ?_, by simpa using hfront,
      by simpa using hback, h⟩
    rw [← String.toList_inj]
    simpa using hs

end LabelFilter.Text
