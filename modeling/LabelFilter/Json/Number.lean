import LabelFilter.Decimal.Shortest
import LabelFilter.Json.Octet

/-!
# Numbers of JSON text

The literal of a number is read first; what it denotes is asked only where the number matters. A
literal without fraction and exponent denotes an integer if the integer fits in 64 bits, and every
other literal a binary fraction.

## Main definitions

* `Json.Number` — the parts of a literal; `Number.scan?` — reading one
* `Json.Magnitude`, `Number.magnitude?` — what a literal denotes
* `Magnitude.text` — how it is shown

## Main results

* `Number.length_scan?` — reading a literal uses up text
-/

namespace LabelFilter.Json

/-- The parts of the literal of a number. -/
structure Number where
  negative : Bool
  whole : List Nat
  fraction : List Nat
  /-- The sign and the digits of the exponent, if there is one. -/
  exponent : Option (Bool × List Nat)
  deriving DecidableEq, Repr

/-- What is wrong with a literal. -/
inductive NumberSlip where
  /-- The text ends inside the literal. -/
  | cut
  /-- Another character stands where a digit is due, or a digit follows a leading zero. -/
  | invalid
  deriving DecidableEq, Repr

namespace Number

/-- The digits at the start of a text, at least one, and the text after them. -/
def digits1 (bs : List Octet) : Except NumberSlip (List Nat × List Octet) :=
  match bs with
  | [] => .error .cut
  | b :: rest =>
    if isDigit b then
      .ok (digitValue b :: (rest.takeWhile isDigit).map digitValue, rest.dropWhile isDigit)
    else .error .invalid

/-- The digits before the point: a zero alone, or digits that begin with another one. -/
def scanWhole (bs : List Octet) : Except NumberSlip (List Nat × List Octet) :=
  match bs with
  | [] => .error .cut
  | b :: rest =>
    if b = ascii '0' then
      match rest with
      | [] => .ok ([0], [])
      | c :: rest => if isDigit c then .error .invalid else .ok ([0], c :: rest)
    else digits1 (b :: rest)

/-- The point and the digits after it, if there is a point. -/
def scanFraction (bs : List Octet) : Except NumberSlip (List Nat × List Octet) :=
  match bs with
  | [] => .ok ([], [])
  | b :: rest => if b = ascii '.' then digits1 rest else .ok ([], b :: rest)

/-- The sign of an exponent, `true` for a minus, and the text after it. -/
def scanSign (bs : List Octet) : Bool × List Octet :=
  match bs with
  | [] => (false, [])
  | b :: rest =>
    if b = ascii '-' then (true, rest)
    else if b = ascii '+' then (false, rest)
    else (false, b :: rest)

/-- The exponent, if there is one. -/
def scanExponent (bs : List Octet) :
    Except NumberSlip (Option (Bool × List Nat) × List Octet) :=
  match bs with
  | [] => .ok (none, [])
  | b :: rest =>
    if b = ascii 'e' || b = ascii 'E' then
      let (negative, rest) := scanSign rest
      (digits1 rest).map fun (ds, rest) => (some (negative, ds), rest)
    else .ok (none, b :: rest)

/-- The literal at the start of a text, and the text after it. -/
def scan (bs : List Octet) : Except NumberSlip (Number × List Octet) := do
  let (negative, bs) := match bs with
    | [] => (false, [])
    | b :: rest => if b = ascii '-' then (true, rest) else (false, b :: rest)
  let (whole, bs) ← scanWhole bs
  let (fraction, bs) ← scanFraction bs
  let (exponent, bs) ← scanExponent bs
  return (⟨negative, whole, fraction, exponent⟩, bs)

/-! ### Reading uses up text -/

theorem length_digits1 {bs rest : List Octet} {ds : List Nat}
    (h : digits1 bs = .ok (ds, rest)) : rest.length < bs.length := by
  unfold digits1 at h
  split at h
  · simp at h
  · split at h
    · simp only [Except.ok.injEq, Prod.mk.injEq] at h
      rw [← h.2, List.length_cons]
      exact Nat.lt_succ_of_le (List.dropWhile_suffix _).length_le
    · simp at h

theorem length_scanWhole {bs rest : List Octet} {ds : List Nat}
    (h : scanWhole bs = .ok (ds, rest)) : rest.length < bs.length := by
  unfold scanWhole at h
  split at h
  · simp at h
  · split at h
    · split at h
      · simp only [Except.ok.injEq, Prod.mk.injEq] at h
        simp [← h.2]
      · split at h
        · simp at h
        · simp only [Except.ok.injEq, Prod.mk.injEq] at h
          simp [← h.2]
    · exact length_digits1 h

theorem length_scanFraction {bs rest : List Octet} {ds : List Nat}
    (h : scanFraction bs = .ok (ds, rest)) : rest.length ≤ bs.length := by
  unfold scanFraction at h
  split at h
  · simp only [Except.ok.injEq, Prod.mk.injEq] at h
    simp [← h.2]
  · split at h
    · exact Nat.le_of_lt (Nat.lt_succ_of_lt (length_digits1 h))
    · simp only [Except.ok.injEq, Prod.mk.injEq] at h
      simp [← h.2]

theorem length_scanSign (bs : List Octet) : (scanSign bs).2.length ≤ bs.length := by
  unfold scanSign
  split
  · simp
  · split
    · simp
    · split <;> simp

theorem length_scanExponent {bs rest : List Octet} {e : Option (Bool × List Nat)}
    (h : scanExponent bs = .ok (e, rest)) : rest.length ≤ bs.length := by
  unfold scanExponent at h
  split at h
  · simp only [Except.ok.injEq, Prod.mk.injEq] at h
    simp [← h.2]
  · next b bs' =>
    split at h
    · have hs := length_scanSign bs'
      revert h hs
      generalize scanSign bs' = p
      intro h hs
      simp only [Except.map] at h
      split at h
      · simp at h
      · next hd =>
        simp only [Except.ok.injEq, Prod.mk.injEq] at h
        have := length_digits1 hd
        rw [h.2] at this
        simp only [List.length_cons]
        omega
    · simp only [Except.ok.injEq, Prod.mk.injEq] at h
      simp [← h.2]

theorem length_scan {bs rest : List Octet} {n : Number} (h : scan bs = .ok (n, rest)) :
    rest.length < bs.length := by
  unfold scan at h
  generalize hs : (match bs with
    | [] => (false, [])
    | b :: rest => if b = ascii '-' then (true, rest) else (false, b :: rest)) = s at h
  have hle : s.2.length ≤ bs.length := by
    rw [← hs]
    split
    · simp
    · split <;> simp
  simp only [bind, Except.bind, pure, Except.pure] at h
  split at h
  · simp at h
  · next hw =>
    split at h
    · simp at h
    · next hf =>
      split at h
      · simp at h
      · next he =>
        simp only [Except.ok.injEq, Prod.mk.injEq] at h
        have h1 := length_scanWhole hw
        have h2 := length_scanFraction hf
        have h3 := length_scanExponent he
        rw [h.2] at h3
        omega

/-! ### What a literal denotes -/

/-- The least number that no longer fits in an unsigned word. -/
def wordBound : Nat := UInt64.size

/-- Take digits onto a number as long as it fits in an unsigned word; the number, and how many
digits did not fit. -/
def absorb (acc : Nat) : List Nat → Nat × Nat
  | [] => (acc, 0)
  | d :: ds => if acc * 10 + d < wordBound then absorb (acc * 10 + d) ds else (acc, ds.length + 1)

/-- The value of a list of digits. -/
def ofDigits (ds : List Nat) : Nat := ds.foldl (fun acc d => acc * 10 + d) 0

end Number

/-- What the literal of a number denotes. -/
inductive Magnitude where
  | integer (value : Int)
  | fraction (negative : Bool) (value : Decimal.Binary)
  deriving DecidableEq, Repr

namespace Number

/-- The binary fraction that a literal denotes, from the digits that fit in a word and a power of
ten; `none` if it is out of range. -/
def fraction? (n : Number) : Option Decimal.Binary :=
  let (significand, dropped) := absorb 0 n.whole
  let (significand, unread) := absorb significand n.fraction
  let shift : Int := (dropped : Int) - (n.fraction.length - unread : Nat)
  let exponent : Int := match n.exponent with
    | none => 0
    | some (negative, ds) => if negative then -(ofDigits ds : Int) else ofDigits ds
  (Decimal.Binary.ofNat significand).bind fun b => b.scale (shift + exponent)

/-- What a literal denotes; `none` if it is out of range. A negative zero is a fraction, and so is
a negative integer below the least signed word. -/
def magnitude? (n : Number) : Option Magnitude :=
  let (significand, dropped) := absorb 0 n.whole
  if dropped = 0 ∧ n.fraction = [] ∧ n.exponent = none then
    if !n.negative then some (.integer significand)
    else if 0 < significand ∧ significand ≤ wordBound / 2 then some (.integer (-significand))
    else n.fraction?.map (.fraction true)
  else n.fraction?.map (.fraction n.negative)

end Number

namespace Magnitude

/-- Fractions are written plainly from `0.00001` to below `10 ^ 16`, and with an exponent of at
least two digits beyond. -/
def layout : Decimal.Layout := ⟨-5, 15, 2⟩

/-- A fraction as it is shown. -/
def fractionText (negative : Bool) (b : Decimal.Binary) : String :=
  let cs := if b.mantissa = 0 then ['0', '.', '0'] else Decimal.render layout b.shortest
  String.ofList (if negative then '-' :: cs else cs)

end Magnitude

end LabelFilter.Json
