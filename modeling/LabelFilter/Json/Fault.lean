import LabelFilter.Json.Token
import LabelFilter.Text.Quoted

/-!
# Faults of documents

Why a document is not accepted: its text ends too early, is not JSON, or is JSON of the wrong
form. Each fault is a cause; its wording is in one place.

A fault does not know its place in the text. What users of the program are told goes on with
` at line L column C` after the wording of a fault; that position is left out here, and so it is out
of every message around one.

## Main definitions

* `Json.Found` — what stands where something else is due
* `Json.Fault` — the causes; `Fault.category` and `Fault.message` — how they are reported
-/

namespace LabelFilter.Json

/-- What stands where something else is due. -/
inductive Found where
  | null
  | bool (b : Bool)
  | number (m : Magnitude)
  | string (s : String)
  | list
  | object
  deriving DecidableEq, Repr

/-- What the text ends in. -/
inductive Place where
  | value
  | list
  | object
  | string
  deriving DecidableEq, Repr

/-- Why a document is not accepted. -/
inductive Fault where
  | endOfText (place : Place)
  | expectedValue
  | expectedWord
  | expectedColon
  | expectedListComma
  | expectedObjectComma
  | keyNotString
  | trailingComma
  | trailingText
  | invalidNumber
  | numberOutOfRange
  | invalidEscape
  | unpairedSurrogate
  | loneSurrogate
  | controlCharacter
  | notUtf8
  | tooDeep
  | missingField (name : String)
  | duplicateField (name : String)
  | unknownWord (word : String) (words : List String)
  | wrongKind (found : Found) (expected : String)
  | wrongValue (found : Found) (expected : String)
  | wrongLength (length : Nat) (expected : String)
  | noAlternative (type : String)
  deriving DecidableEq, Repr

/-- The three kinds of faults. -/
inductive Category where
  /-- The text ends too early. -/
  | eof
  /-- The text is not JSON, or has a value of a form that can begin nothing that is due. -/
  | grammar
  /-- The text is JSON of the wrong form. -/
  | data
  deriving DecidableEq, Repr

namespace Found

/-- What was found, as it is named in messages. -/
def text : Found → String
  | .null => "null"
  | .bool b => "boolean \x60" ++ (if b then "true" else "false") ++ "\x60"
  | .number (.integer n) => "integer \x60" ++ toString n ++ "\x60"
  | .number (.fraction negative b) =>
    "floating point \x60" ++ Magnitude.fractionText negative b ++ "\x60"
  | .string s => "string " ++ Text.quoted s
  | .list => "sequence"
  | .object => "map"

end Found

namespace Place

/-- What the text ends in, as it is named in messages. -/
def text : Place → String
  | .value => "a value"
  | .list => "a list"
  | .object => "an object"
  | .string => "a string"

end Place

namespace Fault

/-- A word as it is shown in messages. -/
def tick (s : String) : String := "\x60" ++ s ++ "\x60"

/-- The words that are due, as they are listed in messages. -/
def wordList : List String → String
  | [] => "there are no variants"
  | [a] => "expected " ++ tick a
  | [a, b] => "expected " ++ tick a ++ " or " ++ tick b
  | words => "expected one of " ++ ", ".intercalate (words.map tick)

/-- The kind of a fault. -/
def category : Fault → Category
  | .endOfText _ => .eof
  | .missingField _ | .duplicateField _ | .unknownWord .. | .wrongKind .. | .wrongValue ..
  | .wrongLength .. | .noAlternative _ => .data
  | _ => .grammar

/-- The wording of a fault. -/
def message : Fault → String
  | .endOfText place => "EOF while parsing " ++ place.text
  | .expectedValue => "expected value"
  | .expectedWord => "expected ident"
  | .expectedColon => "expected " ++ tick ":"
  | .expectedListComma => "expected " ++ tick "," ++ " or " ++ tick "]"
  | .expectedObjectComma => "expected " ++ tick "," ++ " or " ++ tick "\x7d"
  | .keyNotString => "key must be a string"
  | .trailingComma => "trailing comma"
  | .trailingText => "trailing characters"
  | .invalidNumber => "invalid number"
  | .numberOutOfRange => "number out of range"
  | .invalidEscape => "invalid escape"
  | .unpairedSurrogate => "unexpected end of hex escape"
  | .loneSurrogate => "lone leading surrogate in hex escape"
  | .controlCharacter => "control character (\\u0000-\\u001F) found while parsing a string"
  | .notUtf8 => "invalid unicode code point"
  | .tooDeep => "recursion limit exceeded"
  | .missingField name => "missing field " ++ tick name
  | .duplicateField name => "duplicate field " ++ tick name
  | .unknownWord word words => "unknown variant " ++ tick word ++ ", " ++ wordList words
  | .wrongKind found expected => "invalid type: " ++ found.text ++ ", expected " ++ expected
  | .wrongValue found expected => "invalid value: " ++ found.text ++ ", expected " ++ expected
  | .wrongLength length expected =>
    "invalid length " ++ toString length ++ ", expected " ++ expected
  | .noAlternative type => "data did not match any variant of untagged enum " ++ type

/-- The fault of a string literal that goes wrong. -/
def ofLexemeEnd : LexemeEnd → Fault
  | .closed | .cut => .endOfText .string
  | .control => .controlCharacter
  | .badEscape | .badUnit => .invalidEscape

/-- The fault of a string literal that has no text. -/
def ofTextSlip : TextSlip → Fault
  | .stop e => ofLexemeEnd e
  | .unpairedLeading => .unpairedSurrogate
  | .lone => .loneSurrogate
  | .notUtf8 => .notUtf8

/-- The fault of a token that cannot be read, where a value is due that matters. -/
def ofSlip : Slip → Fault
  | .stray => .expectedValue
  | .word _ .cut => .endOfText .value
  | .word _ .misspelt => .expectedWord
  | .number .cut => .endOfText .value
  | .number .invalid => .invalidNumber

end Fault

end LabelFilter.Json
