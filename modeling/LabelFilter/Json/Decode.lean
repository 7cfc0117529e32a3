import LabelFilter.Json.Document
import LabelFilter.Json.Value

/-!
# Decoding documents

A decoder reads a tree from left to right and stops at the first problem, be it a break of the
text or a value of the wrong form. Three readings of a value differ in what they mind: one that
is passed over may hold any string literals and numbers, one that is decoded or kept must not, and
one that is kept must not be nested too deep.

## Main definitions

* `Json.Decoder` — readings of a tree
* `Doc.skip`, `Doc.value` — passing a value over, and keeping it whole
* `Doc.asString`, `Doc.asList`, `Doc.asOptional`, `Doc.asWord`, `Doc.asNatural` — values of one form
* `Doc.asRecord`, `Doc.members`, `Doc.item?`, `Doc.endItems` — values with named fields
-/

namespace LabelFilter.Json

/-- A reading of a tree. -/
abbrev Decoder (α : Type) := Doc → Except Fault α

namespace Break

/-- The fault of a break in a value that matters. -/
def kept : Break → Fault
  | .slip s => .ofSlip s
  | .misplaced => .expectedValue
  | .valueDue | .memberDue => .endOfText .value
  | .string e => .ofLexemeEnd e
  | .listDue => .endOfText .list
  | .listComma => .expectedListComma
  | .listTrailingComma | .objectTrailingComma => .trailingComma
  | .objectDue => .endOfText .object
  | .objectComma => .expectedObjectComma
  | .keyNotString => .keyNotString
  | .colon => .expectedColon

/-- The fault of a break in a value that is passed over. -/
def skipped : Break → Fault
  | .slip (.number .cut) => .invalidNumber
  | .listTrailingComma => .expectedValue
  | .objectTrailingComma => .keyNotString
  | .memberDue => .endOfText .object
  | b => b.kept

/-- The end of a list or an object whose elements have been decoded. -/
def settle : Option Break → Except Fault Unit
  | none => .ok ()
  | some b => .error b.kept

end Break

/-- The text of a string literal that matters. -/
def Lexeme.decode (s : Lexeme) : Except Fault String :=
  s.text.mapError Fault.ofTextSlip

/-- What the literal of a number denotes, where that matters. -/
def Number.decode (n : Number) : Except Fault Magnitude :=
  match n.magnitude? with
  | some m => .ok m
  | none => .error .numberOutOfRange

/-- A word as something that was found. -/
def Word.found : Word → Found
  | .null => .null
  | .true => .bool Bool.true
  | .false => .bool Bool.false

namespace Doc

/-- What was found in a place of another form. The inside of a list or an object is not read. -/
def found : Doc → Except Fault Found
  | .word w => .ok w.found
  | .number n => n.decode.map .number
  | .string s => s.decode.map .string
  | .list .. => .ok .list
  | .object .. => .ok .object
  | .broken b => .error b.kept

/-- A value of another form than the one that is due. -/
def unexpected {α : Type} (expected : String) (d : Doc) : Except Fault α := do
  throw (.wrongKind (← d.found) expected)

/-- Pass a value over. -/
def skip : Doc → Except Fault Unit
  | .word _ | .number _ => .ok ()
  | .string s => if s.stop = .closed then .ok () else .error (Break.string s.stop).skipped
  | .list _ stop | .object _ stop =>
    match stop with
    | none => .ok ()
    | some b => .error b.skipped
  | .broken b => .error b.skipped

/-- The value that a tree denotes, if it has at most `room` lists and objects inside each
other. -/
def value (room : Nat) (d : Doc) : Except Fault Value :=
  match d, room with
  | .word .null, _ => .ok .null
  | .word .true, _ => .ok (.bool true)
  | .word .false, _ => .ok (.bool false)
  | .number n, _ => n.decode.map .number
  | .string s, _ => s.decode.map .string
  | .broken b, _ => .error b.kept
  | .list .., 0 | .object .., 0 => .error .tooDeep
  | .list items stop, room + 1 => do
    let values ← items.mapM (value room)
    Break.settle stop
    return .list values
  | .object members stop, room + 1 => do
    let values ← members.mapM fun m => do
      let key ← m.1.decode
      return (key, ← value room m.2)
    Break.settle stop
    return .object values

/-- The number of lists and objects that may stand inside each other in a value that is kept. -/
def maxDepth : Nat := 127

/-! ### Values of one form -/

/-- A string. -/
def asString : Decoder String
  | .string s => s.decode
  | d => d.unexpected "a string"

/-- A list of values of one form. -/
def asList {α : Type} (item : Decoder α) : Decoder (List α)
  | .list items stop => do
    let values ← items.mapM item
    Break.settle stop
    return values
  | d => d.unexpected "a sequence"

/-- A value or `null`. -/
def asOptional {α : Type} (decode : Decoder α) : Decoder (Option α)
  | .word .null => .ok none
  | .broken (.slip (.word .null slip)) => .error (.ofSlip (.word .null slip))
  | d => (decode d).map some

/-- The word `null`. -/
def asNull : Decoder Unit
  | .word .null => .ok ()
  | d => d.unexpected "unit"

/-- An integer from zero to below `bound`; `type` names the range. -/
def asNatural (bound : Nat) (type : String) : Decoder Nat
  | .number n => do
    match ← n.decode with
    | .integer (.ofNat k) =>
      if k < bound then return k else throw (.wrongValue (.number (.integer k)) type)
    | .integer k => throw (.wrongValue (.number (.integer k)) type)
    | m => throw (.wrongKind (.number m) type)
  | d => d.unexpected type

/-- The meaning of a word in a vocabulary. -/
def lookUp {α : Type} (vocabulary : List (String × α)) (word : String) : Except Fault α :=
  match vocabulary.lookup word with
  | some a => .ok a
  | none => .error (.unknownWord word (vocabulary.map (·.1)))

/-- One of the words of a vocabulary: a string, or an object whose only member has the word as
its key and the value `null`. In such an object a key is due first, as in any other, and what it
says is asked only then: a closing brace there leaves the word out, and every other token that is
no string literal is `keyNotString`, be it a number or a word like `null`. -/
def asWord {α : Type} (vocabulary : List (String × α)) : Decoder α
  | .string s => do lookUp vocabulary (← s.decode)
  | .object [] stop =>
    match stop with
    | some .objectDue => .error (.endOfText .value)
    | some b => .error b.kept
    | none => .error .expectedValue
  | .object ((key, content) :: members) stop => do
    let a ← lookUp vocabulary (← key.decode)
    content.asNull
    match members, stop with
    | [], none => return a
    | [], some .objectDue => throw (.endOfText .object)
    | _, _ => throw .expectedValue
  | .broken (.slip _) | .broken .misplaced => .error .expectedValue
  | .broken b => .error b.kept
  | _ => .error .expectedValue

/-! ### Values with named fields -/

/-- Read the members of an object one after the other. -/
def members {σ : Type} (step : σ → String → Doc → Except Fault σ) (init : σ)
    (ms : List (Lexeme × Doc)) (stop : Option Break) : Except Fault σ := do
  let s ← ms.foldlM (fun s m => do step s (← m.1.decode) m.2) init
  Break.settle stop
  return s

/-- The first item of a list, if there is one, and the items after it. -/
def item? (items : List Doc) (stop : Option Break) : Except Fault (Option (Doc × List Doc)) :=
  match items with
  | d :: ds => .ok (some (d, ds))
  | [] => do
    Break.settle stop
    return none

/-- The end of a list that has no more fields. -/
def endItems (items : List Doc) (stop : Option Break) : Except Fault Unit :=
  match items, stop with
  | [], none => .ok ()
  | [], some .listComma => .error .trailingText
  | [], some b => .error b.kept
  | _ :: _, _ => .error .trailingText

/-- The next field of a list, or its default. -/
def nextOr {α : Type} (default : Except Fault α) (decode : Decoder α) (items : List Doc)
    (stop : Option Break) : Except Fault (α × List Doc) := do
  match ← item? items stop with
  | none => return (← default, [])
  | some (d, ds) => return (← decode d, ds)

/-- A value with named fields: an object, or a list of the fields in order. -/
def asRecord {α : Type} (type : String) (positional : List Doc → Option Break → Except Fault α)
    (named : List (Lexeme × Doc) → Option Break → Except Fault α) : Decoder α
  | .list items stop => positional items stop
  | .object ms stop => named ms stop
  | d => d.unexpected ("struct " ++ type)

/-- Store the value of a field that must not be repeated. -/
def once {α : Type} (name : String) (slot : Option α) (decode : Decoder α) (d : Doc) :
    Except Fault (Option α) :=
  match slot with
  | some _ => .error (.duplicateField name)
  | none => (decode d).map some

/-- The value of a field that must be there. -/
def need {α : Type} (name : String) : Option α → Except Fault α
  | some a => .ok a
  | none => .error (.missingField name)

end Doc

end LabelFilter.Json
