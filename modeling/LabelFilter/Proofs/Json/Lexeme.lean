import LabelFilter.Json.Lexeme

/-!
# Literals piece by piece

The inside of a string literal is read one piece after the other. A literal that ends at its quote
is read to the same pieces when the text goes on behind it.

## Main results

* `scanFrom_quote`, `scanFrom_octet`, `scanFrom_escape`, `scanFrom_unit` — reading one piece
* `scanFrom_append` — a closed literal in a text that goes on
-/

namespace LabelFilter.Json.Lexeme

/-- The octets that stand for themselves inside of a literal. -/
structure IsPlain (b : Octet) : Prop where
  ne_quote : b ≠ ascii '"'
  ne_backslash : b ≠ ascii '\\'
  not_control : ¬ b < 0x20

theorem backslash_ne_quote : ascii '\\' ≠ ascii '"' := by decide

theorem scanFrom_quote (acc : List Piece) (rest : List Octet) :
    scanFrom acc (ascii '"' :: rest) = (⟨acc.reverse, .closed⟩, rest) := by
  rw [scanFrom.eq_def]
  simp

theorem scanFrom_octet {b : Octet} (h : IsPlain b) (acc : List Piece) (rest : List Octet) :
    scanFrom acc (b :: rest) = scanFrom (.octet b :: acc) rest := by
  rw [scanFrom.eq_def]
  simp [h.ne_quote, h.ne_backslash, h.not_control]

theorem scanFrom_escape {e b : Octet} (h : escaped? e = some b) (acc : List Piece)
    (rest : List Octet) :
    scanFrom acc (ascii '\\' :: e :: rest) = scanFrom (.octet b :: acc) rest := by
  have hunit : e ≠ ascii 'u' := by
    rintro rfl
    rw [show escaped? (ascii 'u') = none by decide] at h
    cases h
  rw [scanFrom.eq_def]
  simp [backslash_ne_quote, hunit, h]

theorem scanFrom_unit {h₁ h₂ h₃ h₄ : Octet} {n : Nat} (h : hexUnit? h₁ h₂ h₃ h₄ = some n)
    (acc : List Piece) (rest : List Octet) :
    scanFrom acc (ascii '\\' :: ascii 'u' :: h₁ :: h₂ :: h₃ :: h₄ :: rest) =
      scanFrom (.unit n :: acc) rest := by
  rw [scanFrom.eq_def]
  simp [backslash_ne_quote, h]

/-- A closed literal stays the same when the text goes on. -/
theorem scanFrom_append {acc : List Piece} {bs rest : List Octet} {s : Lexeme}
    (h : scanFrom acc bs = (s, rest)) (hs : s.stop = .closed) (more : List Octet) :
    scanFrom acc (bs ++ more) = (s, rest ++ more) := by
  fun_induction scanFrom acc bs with
  | case1 | case3 | case5 | case6 | case8 | case9 =>
    -- the literal goes wrong, or the text ends inside of it
    cases h
    cases hs
  | case2 acc bs =>
    cases h
    exact scanFrom_quote acc _
  | case4 acc h₁ h₂ h₃ h₄ bs n hn _ ih =>
    exact (scanFrom_unit hn acc _).trans (ih h)
  | case7 acc e bs _ b hb _ ih =>
    exact (scanFrom_escape hb acc _).trans (ih h)
  | case10 acc b bs hquote hbackslash hcontrol ih =>
    exact (scanFrom_octet ⟨hquote, hbackslash, hcontrol⟩ acc _).trans (ih h)

end LabelFilter.Json.Lexeme
