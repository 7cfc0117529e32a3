import LabelFilter.Json.Fault

/-!
# Documents

A document is the tree of a JSON text as far as the text is JSON: where it stops being JSON, the
tree has a break, and every list and object around the break knows of it. A reader of the tree
that works from left to right therefore meets problems in the order of the text, whether they are
of grammar or of meaning. String literals and numbers are kept as they were read, because nobody
minds what is in them where they are passed over.

## Main definitions

* `Json.Break` — where a text stops being JSON
* `Json.Doc` — trees
* `Json.Position`, `Position.step` — reading a tree token by token
* `Json.Document`, `Document.ofOctets` — the tree of a text, and whether more text follows
-/

namespace LabelFilter.Json

/-- Where a text stops being JSON. -/
inductive Break where
  /-- A value is due and no token can be read. -/
  | slip (s : Slip)
  /-- A value is due and a comma, a colon or a closing bracket stands there. -/
  | misplaced
  /-- A value is due and the text ends. -/
  | valueDue
  /-- A string literal goes wrong. -/
  | string (e : LexemeEnd)
  /-- The text ends after the opening of a list, or after an item. -/
  | listDue
  /-- Neither a comma nor a bracket follows an item. -/
  | listComma
  /-- A bracket follows a comma. -/
  | listTrailingComma
  /-- The text ends after the opening of an object, a key or a member. -/
  | objectDue
  /-- Neither a comma nor a brace follows a member. -/
  | objectComma
  /-- A brace follows a comma. -/
  | objectTrailingComma
  /-- The text ends after a comma between members. -/
  | memberDue
  /-- Something else than a string literal stands where a key is due. -/
  | keyNotString
  /-- No colon follows a key. -/
  | colon
  deriving DecidableEq, Repr

/-- The tree of a JSON text, as far as it is JSON. A list or an object ends in `none` at its
bracket, and otherwise in the break at which the text stops being JSON. -/
inductive Doc where
  | word (w : Word)
  | number (n : Number)
  | string (s : Lexeme)
  | list (items : List Doc) (stop : Option Break)
  | object (members : List (Lexeme × Doc)) (stop : Option Break)
  | broken (b : Break)

/-! ### Reading a tree -/

/-- A list or an object around the value that is read, its elements the last one first. -/
inductive Frame where
  | list (items : List Doc)
  | object (members : List (Lexeme × Doc)) (key : Lexeme)

/-- What is due next, with the elements that have been read and the frames around them. -/
inductive Position where
  | value (frames : List Frame)
  | firstItem (frames : List Frame)
  | nextItem (items : List Doc) (frames : List Frame)
  | afterItem (items : List Doc) (frames : List Frame)
  | firstKey (frames : List Frame)
  | nextKey (members : List (Lexeme × Doc)) (frames : List Frame)
  | afterKey (members : List (Lexeme × Doc)) (key : Lexeme) (frames : List Frame)
  | afterMember (members : List (Lexeme × Doc)) (frames : List Frame)
  | done (root : Doc)

/-- The tree around a value at whose end the text stops being JSON. -/
def Break.unwind (b : Break) (d : Doc) : List Frame → Doc
  | [] => d
  | .list items :: frames => b.unwind (.list (d :: items).reverse (some b)) frames
  | .object members key :: frames =>
    b.unwind (.object ((key, d) :: members).reverse (some b)) frames

namespace Position

/-- A value has been read. -/
def close (d : Doc) : List Frame → Position
  | [] => .done d
  | .list items :: frames => .afterItem (d :: items) frames
  | .object members key :: frames => .afterMember ((key, d) :: members) frames

/-- The text stops being JSON in place of a value. -/
def breakValue (b : Break) (frames : List Frame) : Position :=
  .done (b.unwind (.broken b) frames)

/-- The text stops being JSON in a list. -/
def breakList (b : Break) (items : List Doc) (frames : List Frame) : Position :=
  .done (b.unwind (.list items.reverse (some b)) frames)

/-- The text stops being JSON in an object. -/
def breakObject (b : Break) (members : List (Lexeme × Doc)) (frames : List Frame) : Position :=
  .done (b.unwind (.object members.reverse (some b)) frames)

/-- A token where a value is due. -/
def stepValue (frames : List Frame) : Token → Position
  | .openList => .firstItem frames
  | .openObject => .firstKey frames
  | .word w => close (.word w) frames
  | .number n => close (.number n) frames
  | .string s =>
    if s.stop = .closed then close (.string s) frames
    else .done ((Break.string s.stop).unwind (.string s) frames)
  | .broken slip => breakValue (.slip slip) frames
  | .closeList | .closeObject | .comma | .colon => breakValue .misplaced frames

/-- A token where a key is due. -/
def stepKey (members : List (Lexeme × Doc)) (frames : List Frame) : Token → Position
  | .string s =>
    if s.stop = .closed then .afterKey members s frames
    else breakValue (.string s.stop) (.object members s :: frames)
  | _ => breakObject .keyNotString members frames

/-- Read one token. -/
def step : Position → Token → Position
  | .value frames, t => stepValue frames t
  | .firstItem frames, .closeList => close (.list [] none) frames
  | .firstItem frames, t => stepValue (.list [] :: frames) t
  | .nextItem items frames, .closeList => breakList .listTrailingComma items frames
  | .nextItem items frames, t => stepValue (.list items :: frames) t
  | .afterItem items frames, .comma => .nextItem items frames
  | .afterItem items frames, .closeList => close (.list items.reverse none) frames
  | .afterItem items frames, _ => breakList .listComma items frames
  | .firstKey frames, .closeObject => close (.object [] none) frames
  | .firstKey frames, t => stepKey [] frames t
  | .nextKey members frames, .closeObject => breakObject .objectTrailingComma members frames
  | .nextKey members frames, t => stepKey members frames t
  | .afterKey members key frames, .colon => .value (.object members key :: frames)
  | .afterKey members key frames, _ => breakValue .colon (.object members key :: frames)
  | .afterMember members frames, .comma => .nextKey members frames
  | .afterMember members frames, .closeObject => close (.object members.reverse none) frames
  | .afterMember members frames, _ => breakObject .objectComma members frames
  | .done root, _ => .done root

/-- The tree when the text ends. -/
def finish : Position → Doc
  | .value frames => Break.valueDue.unwind (.broken .valueDue) frames
  | .firstItem frames => Break.listDue.unwind (.list [] (some .listDue)) frames
  | .nextItem items frames => Break.valueDue.unwind (.broken .valueDue) (.list items :: frames)
  | .afterItem items frames =>
    Break.listDue.unwind (.list items.reverse (some .listDue)) frames
  | .firstKey frames => Break.objectDue.unwind (.object [] (some .objectDue)) frames
  | .nextKey members frames =>
    Break.memberDue.unwind (.object members.reverse (some .memberDue)) frames
  | .afterKey members key frames =>
    Break.objectDue.unwind (.broken .objectDue) (.object members key :: frames)
  | .afterMember members frames =>
    Break.objectDue.unwind (.object members.reverse (some .objectDue)) frames
  | .done root => root

end Position

/-- The tree of a text, and whether something follows it. -/
structure Document where
  root : Doc
  trailing : Bool

namespace Document

/-- Read tokens from a position on. -/
def ofTokens (p : Position) : List Token → Document
  | [] => ⟨p.finish, false⟩
  | t :: ts =>
    match p with
    | .done root => ⟨root, true⟩
    | p => ofTokens (p.step t) ts

/-- The document of a text. -/
def ofOctets (bs : List Octet) : Document := ofTokens (.value []) (tokens bs)

end Document

end LabelFilter.Json
