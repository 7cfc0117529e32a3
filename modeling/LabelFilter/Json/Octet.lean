/-!
# Octets of JSON text

JSON text is read octet by octet. All characters with a meaning in its grammar are ASCII, so each
of them is one octet, and no octet of another character is mistaken for one of them.

## Main definitions

* `Json.Octet` — an octet; `Json.ascii` — the octet of an ASCII character
* `Json.isSpace`, `Json.isDigit`, `Json.hexValue?` — classes of octets
-/

namespace LabelFilter.Json

/-- An octet of a text. -/
abbrev Octet := UInt8

/-- The octet of an ASCII character. -/
def ascii (c : Char) : Octet := c.toNat.toUInt8

/-- White space between the tokens of JSON text. -/
def isSpace (b : Octet) : Bool :=
  b = ascii ' ' || b = ascii '\t' || b = ascii '\n' || b = ascii '\r'

/-- A decimal digit. -/
def isDigit (b : Octet) : Bool :=
  ascii '0' ≤ b && b ≤ ascii '9'

/-- The value of a decimal digit. -/
def digitValue (b : Octet) : Nat := b.toNat - 48

/-- The value of a hexadecimal digit, in either letter case. -/
def hexValue? (b : Octet) : Option Nat :=
  if isDigit b then some (digitValue b)
  else if ascii 'a' ≤ b && b ≤ ascii 'f' then some (b.toNat - 87)
  else if ascii 'A' ≤ b && b ≤ ascii 'F' then some (b.toNat - 55)
  else none

end LabelFilter.Json
