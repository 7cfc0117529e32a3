/-!
# Letter case

Comparisons that pay no heed to letter case. The vocabularies of this library are ASCII words, so
two notions are enough: folding the twenty-six ASCII letters, and full lower-casing as far as it
can reach an ASCII word.

## Main definitions

* `Text.upper` — the ASCII letters of a text in upper case, all else as it is
* `Text.sameLetters` — equality up to the case of ASCII letters
* `Text.lowerChar`, `Text.lowersTo` — lower-casing, compared with an ASCII word
-/

namespace LabelFilter.Text

/-- ASCII letters in upper case, all else as it is. -/
def upper (s : String) : String :=
  String.ofList (s.toList.map Char.toUpper)

/-- Equality up to the case of ASCII letters. -/
def sameLetters (s t : String) : Bool :=
  s.toList.map Char.toUpper == t.toList.map Char.toUpper

/-- The lower-case form of a character, as far as it is an ASCII letter. Besides the ASCII letters
only the Kelvin sign U+212A has such a form; every other character beyond ASCII has a form that
holds a character beyond ASCII, and is left as it is. -/
def lowerChar (c : Char) : Char :=
  if c = '\u212a' then 'k' else c.toLower

/-- Whether `s` in lower case is the word `w` of lower-case ASCII letters. -/
def lowersTo (s w : String) : Bool :=
  s.toList.map lowerChar == w.toList

theorem sameLetters_iff {s t : String} : sameLetters s t = true ↔ upper s = upper t := by
  simp [sameLetters, upper, String.ofList_inj]

theorem lowersTo_iff {s w : String} : lowersTo s w = true ↔ s.toList.map lowerChar = w.toList := by
  simp [lowersTo]

end LabelFilter.Text
