/-!
# Numerals

Whole numbers in decimal digits, within bounds. A sign may stand in front, and the first character
that cannot be right decides the error.

## Main definitions

* `NumeralError` — why a text is no numeral within bounds
* `Numeral.natural`, `Numeral.integer` — the number that a text writes

## Main results

* `Numeral.digits_le` — a number that is read is within its bound
-/

namespace LabelFilter

/-- Why a text is no numeral within bounds. -/
inductive NumeralError where
  | empty
  | invalidDigit
  | tooLarge
  | tooSmall
  deriving DecidableEq, Repr

/-- The wording of an error. -/
def NumeralError.message : NumeralError → String
  | .empty => "cannot parse integer from empty string"
  | .invalidDigit => "invalid digit found in string"
  | .tooLarge => "number too large to fit in target type"
  | .tooSmall => "number too small to fit in target type"

namespace Numeral

/-- The number that digits write, if `n` has been read before them. Going beyond `limit` is the
error `excess`. -/
def digitsFrom (limit : Nat) (excess : NumeralError) (n : Nat) :
    List Char → Except NumeralError Nat
  | [] => .ok n
  | c :: cs =>
    if !c.isDigit then .error .invalidDigit
    else if limit < 10 * n + (c.toNat - 48) then .error excess
    else digitsFrom limit excess (10 * n + (c.toNat - 48)) cs

/-- The number that one or more digits write. -/
def digits (limit : Nat) (excess : NumeralError) (cs : List Char) : Except NumeralError Nat :=
  if cs = [] then .error .invalidDigit else digitsFrom limit excess 0 cs

/-- A number from zero to below `bound`, with or without a plus sign. -/
def natural (bound : Nat) (s : String) : Except NumeralError Nat :=
  match s.toList with
  | [] => .error .empty
  | '+' :: cs => digits (bound - 1) .tooLarge cs
  | cs => digits (bound - 1) .tooLarge cs

/-- A number from `-bound` to below `bound`, with or without a sign. -/
def integer (bound : Nat) (s : String) : Except NumeralError Int :=
  match s.toList with
  | [] => .error .empty
  | '+' :: cs => (digits (bound - 1) .tooLarge cs).map Int.ofNat
  | '-' :: cs => (digits bound .tooSmall cs).map fun n => -Int.ofNat n
  | cs => (digits (bound - 1) .tooLarge cs).map Int.ofNat

theorem digitsFrom_le {limit : Nat} {excess : NumeralError} {n k : Nat} {cs : List Char}
    (hn : n ≤ limit) (h : digitsFrom limit excess n cs = .ok k) : k ≤ limit := by
  induction cs generalizing n with
  | nil =>
    obtain rfl : n = k := Except.ok.inj h
    exact hn
  | cons c cs ih =>
    unfold digitsFrom at h
    split at h
    · cases h
    · split at h
      · cases h
      · exact ih (by omega) h

theorem digits_le {limit : Nat} {excess : NumeralError} {k : Nat} {cs : List Char}
    (h : digits limit excess cs = .ok k) : k ≤ limit := by
  unfold digits at h
  split at h
  · cases h
  · exact digitsFrom_le (Nat.zero_le limit) h

end Numeral

end LabelFilter
