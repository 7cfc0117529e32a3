/-!
# Writing JSON

Texts, lists and objects as JSON without white space. A string is written with the short escapes
where there are any, and other control characters as UTF-16 units; everything else, whatever its
script, stands for itself.

## Main definitions

* `Json.stringText`, `Json.listText`, `Json.objectText` — the written forms
-/

namespace LabelFilter.Json

/-- One hexadecimal digit, in lower case. -/
def hexDigit (n : Nat) : Char := Nat.digitChar (n % 16)

/-- How one character of a string is written. -/
def writtenChar (c : Char) : List Char :=
  if c = '"' ∨ c = '\\' then ['\\', c]
  else if c = '\x08' then ['\\', 'b']
  else if c = '\t' then ['\\', 't']
  else if c = '\n' then ['\\', 'n']
  else if c = '\x0c' then ['\\', 'f']
  else if c = '\r' then ['\\', 'r']
  else if c.toNat < 0x20 then ['\\', 'u', '0', '0', hexDigit (c.toNat / 16), hexDigit c.toNat]
  else [c]

/-- A string, as it is written. -/
def stringText (s : String) : String :=
  String.ofList ('"' :: (s.toList.flatMap writtenChar ++ ['"']))

/-- A list of values that have been written. -/
def listText (values : List String) : String :=
  "[" ++ ",".intercalate values ++ "]"

/-- An object, the values of whose members have been written. -/
def objectText (members : List (String × String)) : String :=
  "\x7b" ++ ",".intercalate (members.map fun m => stringText m.1 ++ ":" ++ m.2) ++ "\x7d"

end LabelFilter.Json
