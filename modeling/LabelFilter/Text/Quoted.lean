import LabelFilter.Text.Hidden

/-!
# Quoted texts

How a message shows a text that it found: between double quotes, with everything that would be
misread in a line of output written as an escape.

## Main definitions

* `Text.quoted` — a text between double quotes
-/

namespace LabelFilter.Text

/-- How one character of a quoted text is shown. -/
def quotedChar (c : Char) : List Char :=
  if c = '"' ∨ c = '\\' then ['\\', c]
  else if c = '\n' then ['\\', 'n']
  else if c = '\r' then ['\\', 'r']
  else if c = '\t' then ['\\', 't']
  else if c = '\x00' then ['\\', '0']
  else if isHidden c then '\\' :: 'u' :: '\x7b' :: (Nat.toDigits 16 c.toNat ++ ['\x7d'])
  else [c]

/-- A text between double quotes. -/
def quoted (s : String) : String :=
  String.ofList ('"' :: (s.toList.flatMap quotedChar ++ ['"']))

end LabelFilter.Text
