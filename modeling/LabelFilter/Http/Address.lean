/-!
# Network addresses

An address of version 4 is four octets, written in decimal digits with dots. An address of
version 6 is eight units of sixteen bits, written in hexadecimal digits with colons; two colons
may stand for a run of zero units, and the last two units may be written as an address of
version 4.

## Main definitions

* `Address` — addresses of both versions
* `Address.ofText?` — the address that a text writes
* `Address.text` — the canonical text of an address
-/

namespace LabelFilter

/-- A network address. -/
inductive Address where
  | v4 (a b c d : UInt8)
  /-- Eight units. -/
  | v6 (units : List UInt16) (eight : units.length = 8)
  deriving DecidableEq, Repr

namespace Address

/-! ### Reading -/

/-- The pieces of a text between the characters `sep`. -/
def pieces (sep : Char) : List Char → List (List Char)
  | [] => [[]]
  | c :: cs =>
    if c = sep then [] :: pieces sep cs
    else
      match pieces sep cs with
      | p :: ps => (c :: p) :: ps
      | [] => [[c]]

/-- The value of a decimal digit. -/
def decimal? (c : Char) : Option Nat := if c.isDigit then some (c.toNat - 48) else none

/-- The value of a hexadecimal digit, in either letter case. -/
def hexadecimal? (c : Char) : Option Nat :=
  if c.isDigit then some (c.toNat - 48)
  else if 'a' ≤ c ∧ c ≤ 'f' then some (c.toNat - 87)
  else if 'A' ≤ c ∧ c ≤ 'F' then some (c.toNat - 55)
  else none

/-- The number that some digits write. -/
def number? (radix : Nat) (digit? : Char → Option Nat) (cs : List Char) : Option Nat := do
  return (← cs.mapM digit?).foldl (fun n d => n * radix + d) 0

/-- One octet: one to three decimal digits without a leading zero. -/
def octet? (cs : List Char) : Option UInt8 := do
  if cs = [] ∨ 3 < cs.length ∨ (cs.head? = some '0' ∧ 1 < cs.length) then none
  else
    let n ← number? 10 decimal? cs
    if n < UInt8.size then some (UInt8.ofNat n) else none

/-- Four octets with dots between them. -/
def octets? (cs : List Char) : Option (UInt8 × UInt8 × UInt8 × UInt8) := do
  match pieces '.' cs with
  | [a, b, c, d] => return (← octet? a, ← octet? b, ← octet? c, ← octet? d)
  | _ => none

/-- One unit: one to four hexadecimal digits. -/
def unit? (cs : List Char) : Option UInt16 := do
  if cs = [] ∨ 4 < cs.length then none
  else return UInt16.ofNat (← number? 16 hexadecimal? cs)

/-- The units of some pieces. The last piece may be an address of version 4 where `mixed`
holds. -/
def units? (mixed : Bool) : List (List Char) → Option (List UInt16)
  | [] => some []
  | [p] =>
    match mixed, octets? p with
    | true, some (a, b, c, d) =>
      some [a.toUInt16 * 256 + b.toUInt16, c.toUInt16 * 256 + d.toUInt16]
    | _, _ => (unit? p).map ([·])
  | p :: ps => do return (← unit? p) :: (← units? mixed ps)

/-- The units of a text that may be empty. -/
def unitsOf? (mixed : Bool) (cs : List Char) : Option (List UInt16) :=
  if cs = [] then some [] else units? mixed (pieces ':' cs)

/-- What stands before the first two colons, and what behind them. -/
def splitGap : List Char → Option (List Char × List Char)
  | ':' :: ':' :: cs => some ([], cs)
  | c :: cs => (splitGap cs).map fun s => (c :: s.1, s.2)
  | [] => none

/-- Eight units, if there are so many. -/
def ofUnits? (units : List UInt16) : Option Address :=
  if h : units.length = 8 then some (.v6 units h) else none

/-- An address of version 6. Two colons stand for at least one zero unit. -/
def v6OfChars? (cs : List Char) : Option Address :=
  match splitGap cs with
  | none => do ofUnits? (← units? true (pieces ':' cs))
  | some (head, tail) => do
    let head ← unitsOf? false head
    let tail ← unitsOf? true tail
    if head.length + tail.length < 8 then
      ofUnits? (head ++ List.replicate (8 - (head.length + tail.length)) 0 ++ tail)
    else none

/-- The address that a text writes. -/
def ofText? (s : String) : Option Address :=
  match octets? s.toList with
  | some (a, b, c, d) => some (.v4 a b c d)
  | none => v6OfChars? s.toList

/-! ### Writing -/

/-- The text of an address of version 4. -/
def dotted (a b c d : UInt8) : String :=
  ".".intercalate ([a, b, c, d].map fun n => toString n.toNat)

/-- Units in hexadecimal digits with colons between them. -/
def colons (units : List UInt16) : String :=
  ":".intercalate (units.map fun u => String.ofList (Nat.toDigits 16 u.toNat))

/-- How many zero units a list begins with. -/
def zeros (units : List UInt16) : Nat := (units.takeWhile (· == 0)).length

/-- Where the first of the longest runs of zero units begins, counted from `start`, and how long
it is; `best` is what has been found before. -/
def longestRun (start : Nat) (best : Nat × Nat) : List UInt16 → Nat × Nat
  | [] => best
  | u :: us =>
    longestRun (start + 1)
      (if best.2 < zeros (u :: us) then (start, zeros (u :: us)) else best) us

/-- The canonical text of an address. The first of the longest runs of two or more zero units is
left out, and an address of version 4 that is mapped into version 6 stays readable. -/
def text : Address → String
  | .v4 a b c d => dotted a b c d
  | .v6 units _ =>
    match units with
    | [0, 0, 0, 0, 0, 0xffff, x, y] =>
      "::ffff:" ++ dotted (x >>> 8).toUInt8 x.toUInt8 (y >>> 8).toUInt8 y.toUInt8
    | _ =>
      let (start, length) := longestRun 0 (0, 0) units
      if 1 < length then
        colons (units.take start) ++ "::" ++ colons (units.drop (start + length))
      else colons units

/-- The text of an address with a port. -/
def textWithPort (a : Address) (port : UInt16) : String :=
  match a with
  | .v4 .. => a.text ++ ":" ++ toString port.toNat
  | .v6 .. => "[" ++ a.text ++ "]:" ++ toString port.toNat

end Address

end LabelFilter
