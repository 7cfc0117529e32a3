import LabelFilter.Decimal.Binary

/-!
# The shortest decimal that reads back

Every number of the binary format is the nearest one to an interval of reals. Of the decimals in
that interval those with the fewest digits are candidates, and the one nearest to the number is
taken; of two that are equally near, the one with the even last digit.

## Main definitions

* `Decimal.Digits` — digits and the power of ten of the first one
* `Binary.shortest` — the shortest decimal of a number
* `Decimal.Layout`, `Decimal.render` — how digits are written
-/

namespace LabelFilter.Decimal

/-- `d.ddd * 10 ^ exponent`, the digits read as one natural number. -/
structure Digits where
  digits : Nat
  exponent : Int
  deriving DecidableEq, Repr

/-- The number of decimal digits. -/
def width (n : Nat) : Nat := (Nat.toDigits 10 n).length

/-- The exponent `k` with `10 ^ k ≤ num / den < 10 ^ (k + 1)`. -/
def leadingPower (num den : Nat) : Int :=
  if den ≤ num then (width (num / den) : Int) - 1
  else -(width ((den + num - 1) / num - 1) : Int)

namespace Binary

/-- Whether `n * 10 ^ k` reads back as `a`: twice its distance from `a` is within the gap to the
neighbour on that side, and an end of the interval belongs to an even mantissa. All sides are
multiplied by four, so that the halved gap below a power of two is a whole number. -/
def readsBack (a : Binary) (n : Nat) (k : Int) : Bool :=
  let e2 := (-a.exponent).toNat
  let e10 := (-k).toNat
  -- both numbers, times `4 * 2 ^ e2 * 10 ^ e10`
  let unit := Nat.pow 2 a.exponent.toNat * Nat.pow 10 e10
  let value := 4 * a.mantissa * unit
  let point := 4 * n * Nat.pow 10 k.toNat * Nat.pow 2 e2
  let below :=
    if a.mantissa = Nat.pow 2 52 ∧ minExponent < a.exponent then unit else 2 * unit
  let above := 2 * unit
  if a.mantissa % 2 = 0 then value ≤ point + below && point ≤ value + above
  else value < point + below && point < value + above

/-- The decimals with `size` digits next to `a`, the nearer one first. -/
def candidates (a : Binary) (lead : Int) (size : Nat) : List Nat × Int :=
  let k := lead - size + 1
  let num := a.mantissa * Nat.pow 2 a.exponent.toNat * Nat.pow 10 (-k).toNat
  let den := Nat.pow 2 (-a.exponent).toNat * Nat.pow 10 k.toNat
  let q := num / den
  (if divEven num den = q then [q, q + 1] else [q + 1, q], k)

/-- The shortest decimal of a number that is not zero. -/
def shortest (a : Binary) : Digits :=
  let lead := leadingPower (a.mantissa * Nat.pow 2 a.exponent.toNat) (Nat.pow 2 (-a.exponent).toNat)
  let found := (List.range 17).findSome? fun i =>
    let (ns, k) := candidates a lead (i + 1)
    (ns.find? fun n => a.readsBack n k).map fun n => (n, k)
  match found with
  | some (n, k) => ⟨n, k + width n - 1⟩
  | none => ⟨a.mantissa, a.exponent⟩

end Binary

/-! ### Writing digits -/

/-- How a decimal is written. -/
structure Layout where
  /-- Powers of ten of the first digit from this one on are written with a plain point … -/
  leastPlain : Int
  /-- … up to this one. -/
  greatestPlain : Int
  /-- The least number of digits of an exponent. -/
  exponentWidth : Nat

/-- `cs` with zeros in front, up to `size` characters. -/
def padZeros (size : Nat) (cs : List Char) : List Char :=
  List.replicate (size - cs.length) '0' ++ cs

/-- A decimal in a layout. A point always has a digit on either side, and an exponent a sign. -/
def render (layout : Layout) (d : Digits) : List Char :=
  let cs := (((Nat.toDigits 10 d.digits).reverse.dropWhile (· = '0')).reverse)
  if layout.leastPlain ≤ d.exponent ∧ d.exponent ≤ layout.greatestPlain then
    if d.exponent < 0 then
      '0' :: '.' :: (List.replicate (-d.exponent - 1).toNat '0' ++ cs)
    else
      let whole := d.exponent.toNat + 1
      if cs.length ≤ whole then cs ++ List.replicate (whole - cs.length) '0' ++ ['.', '0']
      else cs.take whole ++ '.' :: cs.drop whole
  else
    cs.take 1 ++ (if cs.length ≤ 1 then [] else '.' :: cs.drop 1) ++
      'e' :: (if d.exponent < 0 then '-' else '+') ::
        padZeros layout.exponentWidth (Nat.toDigits 10 d.exponent.natAbs)

end LabelFilter.Decimal
