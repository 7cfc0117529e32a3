import LabelFilter.Command.Environment
import LabelFilter.Files.Tree
import LabelFilter.Text.Alphanumeric
import LabelFilter.Text.Blank

/-!
# Environment files

A file named `.env` in the working directory, or in the nearest directory above it, adds variables
to the environment. Every line sets one, a quoted value may run over several lines, and a number
sign begins a comment at the start of a line or behind a blank. The first line that cannot be read
ends the file; the variables before it count. A variable that is there already keeps its value.

## Main definitions

* `EnvironmentFile.lines` — the lines of a file, a quoted value in one piece
* `EnvironmentFile.entry` — the variable that a line sets
* `EnvironmentFile.extend` — an environment with the variables of a file
* `EnvironmentFile.load` — an environment with the variables of the file that a directory is under
-/

namespace LabelFilter.EnvironmentFile

/-! ### Lines -/

/-- Where in a line a character stands. -/
inductive LineState where
  | plain
  | blank
  | escape
  | strong
  | strongEscape
  | weak
  | weakEscape
  deriving DecidableEq, Repr

namespace LineState

/-- The state behind a character, or none where a comment begins. -/
def next (s : LineState) (c : Char) : Option LineState :=
  match s with
  | .plain =>
    if c = '\\' then some .escape
    else if c = '"' then some .weak
    else if c = '\'' then some .strong
    else if c ≠ '\n' ∧ c ≠ '\r' ∧ Text.isBlank c then some .blank
    else some .plain
  | .blank =>
    if c = '#' then none
    else if c = '\\' then some .escape
    else if c = '"' then some .weak
    else if c = '\'' then some .strong
    else some .plain
  | .escape => some .plain
  | .strong => if c = '\\' then some .strongEscape else if c = '\'' then some .plain else s
  | .strongEscape => some .strong
  | .weak => if c = '\\' then some .weakEscape else if c = '"' then some .plain else s
  | .weakEscape => some .weak

/-- The state behind some characters, or none with the characters before the comment. -/
def run (s : LineState) : List Char → List Char × Option LineState
  | [] => ([], some s)
  | c :: cs =>
    match s.next c with
    | none => ([], none)
    | some s =>
      let (before, state) := s.run cs
      (c :: before, state)

end LineState

/-- A line without the characters that end it. -/
def withoutEnd (cs : List Char) : List Char :=
  match cs.reverse with
  | '\n' :: '\r' :: rest | '\n' :: rest => rest.reverse
  | _ => cs

/-- Put rows together to lines, where `read` has been read of a line before. A row that is no text
is none, and so is a line that cannot be had; such a line is the last one. -/
def join (state : LineState) (read : List Char) :
    List (Option (List Char)) → List (Option (List Char))
  | [] => if state = .plain then [] else [none]
  | none :: _ => [none]
  | some row :: rows =>
    if ((read ++ row).dropWhile Text.isBlank).head? = some '#' then
      some [] :: join .plain [] rows
    else
      match state.run row with
      | (before, none) => some (read ++ before) :: join .plain [] rows
      | (_, some .plain) => some (withoutEnd (read ++ row)) :: join .plain [] rows
      | (_, some state) => join state (read ++ row) rows

/-- The rows of a file, each with the character that ends it. -/
def rows : List UInt8 → List (List UInt8)
  | [] => []
  | b :: bs =>
    if b = 10 then [b] :: rows bs
    else
      match rows bs with
      | row :: rest => (b :: row) :: rest
      | [] => [[b]]

/-- The text that some octets encode. -/
def textOf? (bs : List UInt8) : Option (List Char) :=
  (String.fromUTF8? ⟨bs.toArray⟩).map String.toList

/-- A file without the mark of its encoding. -/
def withoutMark : List UInt8 → List UInt8
  | 0xef :: 0xbb :: 0xbf :: bs => bs
  | bs => bs

/-- The lines of a file, a quoted value in one piece. A line that cannot be had is none, and the
last one. -/
def lines (content : List UInt8) : List (Option (List Char)) :=
  join .plain [] ((rows (withoutMark content)).map textOf?)

/-! ### Values -/

/-- Where in a value a character stands. -/
inductive ValueState where
  | plain
  | strong
  | weak
  /-- Behind a backslash, inside quotation marks or not. -/
  | escape (quoted : Bool)
  /-- Behind the value. -/
  | after
  /-- In the name of a variable behind a dollar sign, its characters last first. -/
  | name (quoted : Bool) (read : List Char)
  /-- In the name of a variable in braces, its characters last first. -/
  | braced (quoted : Bool) (read : List Char)
  deriving DecidableEq, Repr

/-- The state of the characters around an escape or a name. -/
def ValueState.around (quoted : Bool) : ValueState := if quoted then .weak else .plain

/-- The value of the variable with a name that has been read backwards. -/
def valueOf (env : Environment) (read : List Char) : List Char :=
  ((env.get? (String.ofList read.reverse)).getD "").toList

/-- The character that a backslash and `c` stand for. -/
def escaped? (c : Char) : Option Char :=
  if c = '\\' ∨ c = '\'' ∨ c = '"' ∨ c = '$' ∨ c = ' ' then some c
  else if c = 'n' then some '\n'
  else none

/-- The value that some characters write. The character behind the name of a variable stands for
itself, whatever it is. -/
def value (env : Environment) : ValueState → List Char → Option (List Char)
  | .plain, [] | .escape false, [] | .after, [] => some []
  | .name false read, [] => some (valueOf env read)
  | _, [] => none
  | .plain, c :: cs =>
    if c = '$' then value env (.name false []) cs
    else if c = '\'' then value env .strong cs
    else if c = '"' then value env .weak cs
    else if c = '\\' then value env (.escape false) cs
    else if c = ' ' ∨ c = '\t' then value env .after cs
    else (value env .plain cs).map (c :: ·)
  | .strong, c :: cs =>
    if c = '\'' then value env .plain cs
    else (value env .strong cs).map (c :: ·)
  | .weak, c :: cs =>
    if c = '$' then value env (.name true []) cs
    else if c = '"' then value env .plain cs
    else if c = '\\' then value env (.escape true) cs
    else (value env .weak cs).map (c :: ·)
  | .escape quoted, c :: cs => do
    let c ← escaped? c
    return c :: (← value env (.around quoted) cs)
  | .after, c :: cs =>
    if c = ' ' ∨ c = '\t' then value env .after cs
    else if c = '#' then some []
    else none
  | .name quoted read, c :: cs =>
    if Text.isAlphanumeric c then value env (.name quoted (c :: read)) cs
    else if c = '\x7b' ∧ read = [] then value env (.braced quoted []) cs
    else if c = '$' then
      (value env (.name quoted []) cs).map (valueOf env read ++ ·)
    else (value env (.around quoted) cs).map (valueOf env read ++ c :: ·)
  | .braced quoted read, c :: cs =>
    if c = '\x7d' then (value env (.around quoted) cs).map (valueOf env read ++ ·)
    else value env (.braced quoted (c :: read)) cs

/-! ### Variables -/

/-- Whether a name can begin with a character. -/
def beginsName (c : Char) : Bool := c.isAlpha || c == '_'

/-- Whether a character can stand inside a name. -/
def isNameChar (c : Char) : Bool := c.isAlphanum || c == '_' || c == '.'

/-- The name that a line begins with, and what follows behind blanks. -/
def name? (cs : List Char) : Option (List Char × List Char) :=
  if cs.head?.any beginsName then
    some (cs.takeWhile isNameChar, (cs.dropWhile isNameChar).dropWhile Text.isBlank)
  else none

/-- What follows an equals sign and blanks. -/
def behindEquals? : List Char → Option (List Char)
  | '=' :: cs => some (cs.dropWhile Text.isBlank)
  | _ => none

/-- The name of the variable that a line sets, and its value as it is written. The word `export`
may stand in front, and is a name itself where an equals sign follows. -/
def assignment? (cs : List Char) : Option (List Char × List Char) := do
  let (name, rest) ← name? cs
  match behindEquals? rest with
  | some written => return (name, written)
  | none =>
    if name = "export".toList then
      let (name, rest) ← name? rest
      return (name, ← behindEquals? rest)
    else none

/-- A line without the blanks at its far end. -/
def withoutBlankEnd (cs : List Char) : List Char := (cs.reverse.dropWhile Text.isBlank).reverse

/-- The variable that a line sets: none for an empty line or a comment, and an error for a line
that cannot be read. -/
def entry (env : Environment) (line : List Char) :
    Except Unit (Option (String × String)) :=
  let cs := (withoutBlankEnd line).dropWhile Text.isBlank
  if cs = [] ∨ cs.head? = some '#' then .ok none
  else
    match assignment? cs with
    | none => .error ()
    | some (name, written) =>
      if written = [] ∨ written.head? = some '#' then .ok (some (String.ofList name, ""))
      else
        match value env .plain written with
        | some v => .ok (some (String.ofList name, String.ofList v))
        | none => .error ()

/-- An environment with the variables of some lines, or none if one of them would get a value with
the character zero in it, which no variable can hold. -/
def extend (env : Environment) : List (Option (List Char)) → Option Environment
  | [] | none :: _ => some env
  | some line :: lines =>
    match entry env line with
    | .error () => some env
    | .ok none => extend env lines
    | .ok (some (name, value)) =>
      if (env.get? name).isNone ∧ value.toList.contains '\x00' then none
      else extend (env.add name value) lines

/-- The names that a file can ask the environment for: whole names, and the parts of names that
hold letters and digits only. -/
def mentioned (content : List UInt8) : List String :=
  let cs := ((rows content).filterMap textOf?).flatten
  let words := cs.splitBy (fun a b => isNameChar a && isNameChar b) ++
    cs.splitBy fun a b => Text.isAlphanumeric a && Text.isAlphanumeric b
  (words.map String.ofList).eraseDups

/-! ### Files -/

/-- The name of environment files. -/
def fileName : String := ".env"

/-- The environment file in the nearest of some directories, which are given by their components.
A directory of that name does not count. -/
def find? (files : FileTree) : List (List String) → Option ByteArray
  | [] => none
  | place :: places =>
    match files.node? (place ++ [fileName]) with
    | some (.file content) => some content
    | _ => find? files places

/-- A directory and all those above it, as their components from the root. -/
def upwards (directory : String) : List (List String) :=
  let place := (Path.components directory).filter fun c => c ≠ "" ∧ c ≠ "."
  (List.range (place.length + 1)).reverse.map place.take

/-- The paths at which an environment file is looked for. -/
def candidates (directory : String) : List String :=
  (upwards directory).map fun place => "/" ++ "/".intercalate (place ++ [fileName])

/-- An environment with the variables of the file that a directory is under, or none if one of
them cannot be set. -/
def load (files : FileTree) (directory : String) (env : Environment) : Option Environment :=
  match find? files (upwards directory) with
  | some content => extend env (lines content.toList)
  | none => some env

end LabelFilter.EnvironmentFile
