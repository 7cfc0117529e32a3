import LabelFilter.Command.Usage
import LabelFilter.Proofs.Text.Lowercase

/-!
# Words for dialects

On a command line a dialect is named by its word in any letter case. Here letter case is that of all
scripts, where the other vocabularies fold ASCII letters only: what is compared with the word is a
lower-case form of the whole text. One text in another script gets through. The Kelvin sign has the
letter `k` for its form, and both words hold that letter.

Every other character beyond ASCII keeps a text from being a word, and a text that is none is quoted
in the error as it stands.

## Main definitions

* `Text.kelvinAsLetter` — a text with the letter in place of the Kelvin sign

## Main results

* `Text.lowersTo_iff_sameLetters` — comparing in lower case folds ASCII letters and the Kelvin sign
* `Dialect.ofWord_up_to_kelvin` — the words for dialects
-/

namespace LabelFilter

namespace Text

/-! ### The Kelvin sign -/

/-- A text with the letter `K` in place of each Kelvin sign. -/
def kelvinAsLetter (s : String) : String :=
  String.ofList (s.toList.map fun c => if c = '\u212a' then 'K' else c)

theorem kelvinAsLetter_of_not_mem {s : String} (h : '\u212a' ∉ s.toList) :
    kelvinAsLetter s = s := by
  have hmap : (s.toList.map fun c => if c = '\u212a' then 'K' else c) = s.toList.map id := by
    refine List.map_congr_left fun c hc => if_neg ?_
    rintro rfl
    exact h hc
  rw [kelvinAsLetter, hmap, List.map_id, String.ofList_toList]

theorem lowerChar_eq_iff {c d : Char} (hd : 'a' ≤ d ∧ d ≤ 'z') :
    lowerChar c = d ↔ SameLetter (if c = '\u212a' then 'K' else c) d := by
  simp only [le_iff_toNat_le, Char.reduceToNat] at hd
  rw [lowerChar]
  split_ifs with hkelvin
  · simp only [SameLetter, le_iff_toNat_le, ← Char.toNat_inj, Char.reduceToNat]
    omega
  · rw [← Char.toNat_inj, toNat_toLower]
    simp only [SameLetter, le_iff_toNat_le, ← Char.toNat_inj, Char.reduceToNat]
    split_ifs <;> omega

/-- **Comparing in lower case** with a word of lower-case letters is comparing up to the case of
ASCII letters, with the Kelvin sign as one of them. -/
theorem lowersTo_iff_sameLetters {s w : String} (hw : ∀ d ∈ w.toList, 'a' ≤ d ∧ d ≤ 'z') :
    lowersTo s w = true ↔ SameLetters (kelvinAsLetter s) w := by
  rw [lowersTo_iff, SameLetters, kelvinAsLetter, String.toList_ofList, ← List.forall₂_eq_eq_eq,
    List.forall₂_map_left_iff, List.forall₂_map_left_iff]
  -- Letter by letter, as those of the word are in lower case.
  rw [List.forall₂_iff_zip, List.forall₂_iff_zip]
  refine and_congr_right fun _ => forall₂_congr fun c d => ?_
  exact imp_congr_right fun hmem => lowerChar_eq_iff (hw d (List.of_mem_zip hmem).2)

end Text

namespace Dialect

open Text (IsLowerForm SameLetters kelvinAsLetter)

variable {word : String} {d : Dialect}

theorem letters_name (d : Dialect) : ∀ c ∈ d.name.toList, 'a' ≤ c ∧ c ≤ 'z' := by
  -- Decided along the name, and not along all characters there are.
  have hall : (d.name.toList.all fun c => 'a' ≤ c ∧ c ≤ 'z') = true := by cases d <;> decide
  exact fun c hc => of_decide_eq_true (List.all_eq_true.mp hall c hc)

theorem ascii_name (d : Dialect) : ∀ c ∈ d.name.toList, c.toNat < 128 := fun c hc =>
  Nat.lt_of_le_of_lt (Text.le_iff_toNat_le.mp (d.letters_name c hc).2) (by decide)

theorem lowersTo_unique {d' : Dialect} (h : Text.lowersTo word d.name = true)
    (h' : Text.lowersTo word d'.name = true) : d = d' := by
  rw [Text.lowersTo_iff] at h h'
  have hname : d.name.toList = d'.name.toList := h.symm.trans h'
  revert hname
  cases d <;> cases d' <;> decide

theorem ofWord_eq_ok_iff : ofWord word = .ok d ↔ Text.lowersTo word d.name = true := by
  have hmem : d ∈ all := by cases d <;> decide
  have hfind : (all.find? fun d => Text.lowersTo word d.name) = some d ↔
      Text.lowersTo word d.name = true := by
    rw [find?_eq_some_iff_of_unique fun _ _ _ _ => lowersTo_unique, and_iff_right hmem]
  rw [← hfind, ofWord]
  cases all.find? fun d => Text.lowersTo word d.name <;> simp

/-- All of a word is ASCII, apart from the Kelvin sign. -/
theorem reachesAscii_of_ofWord (h : ofWord word = .ok d) :
    ∀ c ∈ word.toList, Text.ReachesAscii c := by
  intro c hc
  have hlower := Text.lowersTo_iff.mp (ofWord_eq_ok_iff.mp h)
  have hmem : Text.lowerChar c ∈ d.name.toList := hlower ▸ List.mem_map_of_mem hc
  exact Text.toNat_lowerChar_lt_iff.mp (d.ascii_name _ hmem)

theorem ofWord_eq_error (h : ∀ d, ofWord word ≠ .ok d) :
    ofWord word = .error (.valueRefused (.dialect word)) := by
  unfold ofWord at h ⊢
  cases hfind : all.find? fun d => Text.lowersTo word d.name with
  | some d => exact absurd (by rw [hfind]) (h d)
  | none => rfl

/-- **The words for dialects.** A text is one if a lower-case form of it is the name of a dialect.
So the words are those that have the letters of the name in any case, with the Kelvin sign for a
`k` or without. A text without the Kelvin sign is compared up to the case of ASCII letters and
nothing else, no other character beyond ASCII is ever passed over, and a text that is no word is
quoted in the error as it stands. -/
theorem ofWord_up_to_kelvin (word : String) :
    (∃ lower, IsLowerForm word lower ∧ ∀ d, ofWord word = .ok d ↔ lower = d.name) ∧
    (∀ lower, IsLowerForm word lower → ∀ d, ofWord word = .ok d ↔ lower = d.name) ∧
    (∀ d, ofWord word = .ok d ↔ SameLetters (kelvinAsLetter word) d.name) ∧
    ('\u212a' ∉ word.toList → ∀ d, ofWord word = .ok d ↔ SameLetters word d.name) ∧
    (∀ c ∈ word.toList, 128 ≤ c.toNat → c ≠ '\u212a' → ∀ d, ofWord word ≠ .ok d) ∧
    ((∀ d, ofWord word ≠ .ok d) → ∃ r, ofWord word = .error (.valueRefused r) ∧
      r.message = "Invalid dialect '" ++ word ++ "'. Valid options: clickhouse, duckdb") := by
  have hletters : ∀ d, ofWord word = .ok d ↔ SameLetters (kelvinAsLetter word) d.name := by
    intro d
    rw [ofWord_eq_ok_iff, Text.lowersTo_iff_sameLetters d.letters_name]
  have hlower : ∀ lower, IsLowerForm word lower → ∀ d, ofWord word = .ok d ↔ lower = d.name := by
    intro lower hform d
    rw [ofWord_eq_ok_iff, Text.lowersTo_iff_of_isLowerForm hform d.ascii_name]
  obtain ⟨lower, hform⟩ := Text.exists_isLowerForm word
  refine ⟨⟨lower, hform, hlower lower hform⟩, hlower, hletters, fun hkelvin d => ?_,
    fun c hc hbeyond hkelvin d hd => ?_, fun h => ⟨_, ofWord_eq_error h, ?_⟩⟩
  · rw [hletters, Text.kelvinAsLetter_of_not_mem hkelvin]
  · obtain hascii | rfl := reachesAscii_of_ofWord hd c hc
    · exact absurd hascii (Nat.not_lt.mpr hbeyond)
    · exact hkelvin rfl
  · have hoptions : "'. Valid options: clickhouse, duckdb" =
        "'. Valid options: " ++ ", ".intercalate (all.map name) := by
      decide
    rw [hoptions, ← String.append_assoc]
    rfl

/-- The words in mixed case, and texts that only look like one: with a blank, with a long s, and
with a dotted capital I, whose form begins with the letter. -/
theorem ofWord_of_lookalikes :
    ofWord "DuckDB" = .ok .duckdb ∧ ofWord "CLICKHOUSE" = .ok .clickhouse ∧
      (∃ r, ofWord "duckdb " = .error (.valueRefused r) ∧
        r.message = "Invalid dialect 'duckdb '. Valid options: clickhouse, duckdb") ∧
      ofWord "clickhou\u017fe" ≠ .ok .clickhouse ∧ ofWord "cl\u0130ckhouse" ≠ .ok .clickhouse := by
  obtain ⟨-, -, -, hduck, -⟩ := ofWord_up_to_kelvin "DuckDB"
  obtain ⟨-, -, -, hclick, -⟩ := ofWord_up_to_kelvin "CLICKHOUSE"
  obtain ⟨-, -, -, hblank, -, herror⟩ := ofWord_up_to_kelvin "duckdb "
  obtain ⟨-, -, -, -, hlong, -⟩ := ofWord_up_to_kelvin "clickhou\u017fe"
  obtain ⟨-, -, -, -, hdot, -⟩ := ofWord_up_to_kelvin "cl\u0130ckhouse"
  refine ⟨?_, ?_, herror fun d => ?_, ?_, ?_⟩
  · exact (hduck (by decide) .duckdb).mpr (Text.upper_eq_upper_iff.mp (by decide))
  · exact (hclick (by decide) .clickhouse).mpr (Text.upper_eq_upper_iff.mp (by decide))
  · rw [Ne, hblank (by decide), ← Text.upper_eq_upper_iff]
    cases d <;> decide
  · exact hlong '\u017f' (by decide) (by decide) (by decide) _
  · exact hdot '\u0130' (by decide) (by decide) (by decide) _

/-- A text with the Kelvin sign is a word, though not up to the case of ASCII letters. -/
theorem ofWord_of_kelvin :
    ofWord "duc\u212adb" = .ok .duckdb ∧ ¬ SameLetters "duc\u212adb" Dialect.duckdb.name ∧
      ∃ c ∈ "duc\u212adb".toList, 128 ≤ c.toNat := by
  refine ⟨by decide, ?_, '\u212a', by decide, by decide⟩
  rw [← Text.upper_eq_upper_iff]
  decide

end Dialect

end LabelFilter
