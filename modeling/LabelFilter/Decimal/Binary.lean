/-!
# Binary fractions of double precision

A finite, non-negative number of the 64-bit binary format is `mantissa * 2 ^ exponent` with a
mantissa below `2 ^ 53`. All arithmetic here is exact on natural numbers and is rounded once, to
the nearest such number, an exact half to the even mantissa.

## Main definitions

* `Binary` — a number `mantissa * 2 ^ exponent`
* `Binary.round` — the nearest number to `num / den * 2 ^ e`, if it is in range
* `Binary.ofNat`, `Binary.mul`, `Binary.div` — operations, each rounded once
* `Binary.scale` — a number times a power of ten, in steps

## Main results

* `Binary.divEven_le`, `Binary.le_divEven` — rounding a quotient is off by at most one half
-/

namespace LabelFilter.Decimal

/-- The number `mantissa * 2 ^ exponent`. -/
structure Binary where
  mantissa : Nat
  exponent : Int
  deriving DecidableEq, Repr

namespace Binary

/-- The least exponent of the format. -/
def minExponent : Int := -1074

/-- The greatest exponent of the format. -/
def maxExponent : Int := 971

def zero : Binary := ⟨0, minExponent⟩

/-- `num / den` rounded to the nearest integer, an exact half to the even one. -/
def divEven (num den : Nat) : Nat :=
  let q := num / den
  let r := num % den
  if 2 * r < den ∨ (2 * r = den ∧ q % 2 = 0) then q else q + 1

/-- A mantissa that rounding carried to `2 ^ 53` is halved, and a number above the range is
refused. -/
def normal (mantissa : Nat) (exponent : Int) : Option Binary :=
  let n : Binary :=
    if mantissa = Nat.pow 2 53 then ⟨Nat.pow 2 52, exponent + 1⟩ else ⟨mantissa, exponent⟩
  if maxExponent < n.exponent then none else some n

/-- The number nearest to `num / den * 2 ^ e`, if that is in range. The exponent is chosen so that
the mantissa has 53 bits, or is the least one. -/
def round (num den : Nat) (e : Int) : Option Binary :=
  if num = 0 then some zero
  else
    let guess : Int := (num.log2 : Int) - den.log2 - 52
    let fits (x : Int) : Bool :=
      Nat.pow 2 52 * den * Nat.pow 2 x.toNat ≤ num * Nat.pow 2 (-x).toNat
    let shift := max (if fits guess then guess else guess - 1) (minExponent - e)
    normal (divEven (num * Nat.pow 2 (-shift).toNat) (den * Nat.pow 2 shift.toNat)) (shift + e)

/-- The number nearest to a natural number. -/
def ofNat (n : Nat) : Option Binary := round n 1 0

/-- The product, rounded once. -/
def mul (a b : Binary) : Option Binary :=
  round (a.mantissa * b.mantissa) 1 (a.exponent + b.exponent)

/-- The quotient, rounded once. -/
def div (a b : Binary) : Option Binary :=
  round a.mantissa b.mantissa (a.exponent - b.exponent)

/-- The number nearest to a power of ten. -/
def ofPowerOfTen (n : Nat) : Option Binary := ofNat (Nat.pow 10 n)

/-- The greatest power of ten that one step multiplies or divides by. -/
def stepPower : Nat := 308

/-- `a` divided `steps` times by the greatest step, each time rounded. -/
def lower (a : Binary) : Nat → Option Binary
  | 0 => some a
  | steps + 1 =>
    if a.mantissa = 0 then some a
    else ((ofPowerOfTen stepPower).bind a.div).bind fun b => b.lower steps

/-- `a * 10 ^ exponent` as one multiplication, or as divisions by at most the greatest step, each
rounded; `none` if that is out of range. -/
def scale (a : Binary) (exponent : Int) : Option Binary :=
  if a.mantissa = 0 then some a
  else if 0 ≤ exponent then
    if exponent ≤ stepPower then (ofPowerOfTen exponent.toNat).bind a.mul else none
  else
    let steps := (exponent.natAbs - 1) / stepPower
    (a.lower steps).bind fun b =>
      (ofPowerOfTen (exponent.natAbs - steps * stepPower)).bind b.div

/-! ### Rounding a quotient -/

theorem divEven_le (num den : Nat) : 2 * (divEven num den * den) ≤ 2 * num + den := by
  have h := Nat.div_add_mod num den
  rw [Nat.mul_comm] at h
  simp only [divEven]
  split
  · omega
  · next hr => rw [Nat.add_mul, Nat.one_mul]; omega

theorem le_divEven (num : Nat) {den : Nat} (hd : 0 < den) :
    2 * num ≤ 2 * (divEven num den * den) + den := by
  have h := Nat.div_add_mod num den
  have hlt := Nat.mod_lt num hd
  rw [Nat.mul_comm] at h
  simp only [divEven]
  split
  · next hr => omega
  · rw [Nat.add_mul, Nat.one_mul]; omega

end Binary

end LabelFilter.Decimal
