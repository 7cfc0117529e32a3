import LabelFilter.Json.Octet

/-!
# String literals of JSON text

The inside of a literal is read as pieces, up to the closing quote or to the place where it goes
wrong. Whether the pieces make a text (escaped UTF-16 units in pairs, octets that are UTF-8) is
asked only where the text matters: a literal that is passed over may hold any pieces.

## Main definitions

* `Json.Piece`, `Json.Lexeme` — the pieces of a literal and how it ends
* `Lexeme.scan` — reading one
* `Lexeme.octets`, `Lexeme.text` — the text of a literal

## Main results

* `Lexeme.length_scan` — reading a literal gives no text back
-/

namespace LabelFilter.Json

/-- A piece of the inside of a literal. -/
inductive Piece where
  /-- An octet as it is, or one that a two-character escape stands for. -/
  | octet (b : Octet)
  /-- A UTF-16 unit written by its number. -/
  | unit (n : Nat)
  deriving DecidableEq, Repr

/-- How the inside of a literal ends. -/
inductive LexemeEnd where
  /-- At a quote. -/
  | closed
  /-- With the text. -/
  | cut
  /-- At a control character. -/
  | control
  /-- At a backslash with a character that makes no escape. -/
  | badEscape
  /-- At a number of a UTF-16 unit with something else than hexadecimal digits. -/
  | badUnit
  deriving DecidableEq, Repr

/-- The inside of a literal. -/
structure Lexeme where
  pieces : List Piece
  stop : LexemeEnd
  deriving DecidableEq, Repr

/-- Why the pieces of a literal make no text. -/
inductive TextSlip where
  /-- The literal itself goes wrong. -/
  | stop (e : LexemeEnd)
  /-- A leading surrogate is not followed by another UTF-16 unit. -/
  | unpairedLeading
  /-- A surrogate is not part of a pair. -/
  | lone
  /-- The octets are not UTF-8. -/
  | notUtf8
  deriving DecidableEq, Repr

namespace Lexeme

/-- The octet that a two-character escape stands for. -/
def escaped? (b : Octet) : Option Octet :=
  if b = ascii '"' ∨ b = ascii '\\' ∨ b = ascii '/' then some b
  else if b = ascii 'b' then some 0x08
  else if b = ascii 'f' then some 0x0c
  else if b = ascii 'n' then some 0x0a
  else if b = ascii 'r' then some 0x0d
  else if b = ascii 't' then some 0x09
  else none

/-- The number that four hexadecimal digits write. -/
def hexUnit? (a b c d : Octet) : Option Nat := do
  return (((← hexValue? a) * 16 + (← hexValue? b)) * 16 + (← hexValue? c)) * 16 + (← hexValue? d)

/-- Read pieces onto `acc`, the last one first, and the text after the closing quote. -/
def scanFrom (acc : List Piece) : List Octet → Lexeme × List Octet
  | [] => (⟨acc.reverse, .cut⟩, [])
  | b :: rest =>
    if b = ascii '"' then (⟨acc.reverse, .closed⟩, rest)
    else if b = ascii '\\' then
      match rest with
      | [] => (⟨acc.reverse, .cut⟩, [])
      | e :: rest =>
        if e = ascii 'u' then
          match rest with
          | h₁ :: h₂ :: h₃ :: h₄ :: rest =>
            match hexUnit? h₁ h₂ h₃ h₄ with
            | some n => scanFrom (.unit n :: acc) rest
            | none => (⟨acc.reverse, .badUnit⟩, [])
          | _ => (⟨acc.reverse, .cut⟩, [])
        else
          match escaped? e with
          | some c => scanFrom (.octet c :: acc) rest
          | none => (⟨acc.reverse, .badEscape⟩, [])
    else if b < 0x20 then (⟨acc.reverse, .control⟩, [])
    else scanFrom (.octet b :: acc) rest

/-- The inside of a literal whose opening quote has been read, and the text after its closing
quote. Nothing is left when the literal goes wrong. -/
def scan (bs : List Octet) : Lexeme × List Octet := scanFrom [] bs

theorem length_scanFrom (acc : List Piece) (bs : List Octet) :
    (scanFrom acc bs).2.length ≤ bs.length := by
  fun_induction scanFrom acc bs <;> simp_all <;> omega

theorem length_scan (bs : List Octet) : (scan bs).2.length ≤ bs.length :=
  length_scanFrom [] bs

/-! ### The text of a literal -/

/-- The units that begin a pair. -/
def isLeading (n : Nat) : Bool := 0xd800 ≤ n && n ≤ 0xdbff

/-- The units that end a pair. -/
def isTrailing (n : Nat) : Bool := 0xdc00 ≤ n && n ≤ 0xdfff

/-- The UTF-8 form of a code point. -/
def utf8 (n : Nat) : List Octet := String.utf8EncodeChar (Char.ofNat n)

/-- The code point that a pair of surrogates stands for. -/
def paired (leading trailing : Nat) : Nat :=
  (leading - 0xd800) * 0x400 + (trailing - 0xdc00) + 0x10000

/-- Read pieces as octets onto `acc`, the last one first. After a leading surrogate the literal
may end with the text or go wrong inside the next unit, which counts before the missing pair. -/
def octetsFrom (stop : LexemeEnd) (acc : List Octet) : List Piece → Except TextSlip (List Octet)
  | [] => if stop = .closed then .ok acc.reverse else .error (.stop stop)
  | .octet b :: ps => octetsFrom stop (b :: acc) ps
  | .unit n :: ps =>
    if isTrailing n then .error .lone
    else if isLeading n then
      match ps with
      | .unit m :: ps =>
        if isTrailing m then octetsFrom stop ((utf8 (paired n m)).reverse ++ acc) ps
        else .error .lone
      | .octet _ :: _ => .error .unpairedLeading
      | [] => if stop = .cut ∨ stop = .badUnit then .error (.stop stop) else .error .unpairedLeading
    else octetsFrom stop ((utf8 n).reverse ++ acc) ps

/-- The octets of a literal. -/
def octets (s : Lexeme) : Except TextSlip (List Octet) := octetsFrom s.stop [] s.pieces

/-- The text that octets encode in UTF-8. -/
def decodeUtf8? (bs : List Octet) : Option String := String.fromUTF8? ⟨bs.toArray⟩

/-- The text of a literal. -/
def text (s : Lexeme) : Except TextSlip String := do
  let bs ← s.octets
  match decodeUtf8? bs with
  | some t => return t
  | none => throw .notUtf8

end Lexeme

end LabelFilter.Json
