import LabelFilter.Command.Choices

/-!
# Reading a command line

The words of a command line are options and words in their places. An option has a long name
behind two dashes, and may have a short one behind a single dash, where several can stand
together. Its value follows an equals sign, or stands directly behind a short name, or is the next
word, unless that begins with a dash. Behind two dashes alone no word is an option.

The words are read from left to right. A value is looked at when the next option or word in its
place comes, so an unknown option that stands behind a wrong value is what is told.

## Main definitions

* `Grammar` — the options and places that there are
* `Reader` — what has been read of a command line
* `Reader.readAll` — reading words until they end or a command comes
-/

namespace LabelFilter

/-- What an option does. -/
inductive Effect where
  /-- The option takes a value. -/
  | choose (p : Parameter)
  /-- The whole sub-query is wanted. -/
  | query
  | help
  | version
  deriving DecidableEq, Repr

/-- An option with its names. -/
structure OptionRule where
  long : String
  short : Option Char := none
  effect : Effect
  deriving DecidableEq, Repr

/-- The words that begin a command. -/
inductive CommandWord where
  | start
  | compile
  | help
  deriving DecidableEq, Repr

namespace CommandWord

/-- All of them. -/
def all : List CommandWord := [.start, .compile, .help]

/-- The spelling of a word. -/
def text : CommandWord → String
  | .start => "start"
  | .compile => "compile"
  | .help => "help"

/-- The command that a word begins. -/
def ofText? (s : String) : Option CommandWord := all.find? fun c => c.text == s

end CommandWord

/-- The options and places that there are. -/
structure Grammar where
  options : List OptionRule
  /-- What a word chooses that is no option. -/
  place : Option Parameter := none
  /-- Whether a command can follow. -/
  commands : Bool := false

namespace Grammar

/-- The options of every command. -/
def shared : List OptionRule :=
  [⟨"host", 'H', .choose .host⟩, ⟨"port", 'p', .choose .port⟩, ⟨"config", 'c', .choose .config⟩,
   ⟨"dialect", none, .choose .dialect⟩, ⟨"database", none, .choose .database⟩,
   ⟨"table", none, .choose .table⟩, ⟨"max-filter-items", none, .choose .itemLimit⟩,
   ⟨"help", 'h', .help⟩]

/-- What can stand in front of a command. -/
def root : Grammar := { options := shared ++ [⟨"version", 'V', .version⟩], commands := true }

/-- What can stand behind `start`. -/
def start : Grammar := { options := shared }

/-- What can stand behind `compile`. -/
def compile : Grammar where
  options := shared ++
    [⟨"metric", 'm', .choose .metric⟩, ⟨"aggregation", 'a', .choose .aggregation⟩,
     ⟨"exclude", 'x', .choose .exclude⟩, ⟨"group-by", 'g', .choose .groupBy⟩,
     ⟨"query", none, .query⟩]
  place := some .file

/-- What the option with a long name does. -/
def long? (g : Grammar) (name : String) : Option Effect :=
  (g.options.find? fun o => o.long == name).map OptionRule.effect

/-- What the option with a short name does. -/
def short? (g : Grammar) (name : Char) : Option Effect :=
  (g.options.find? fun o => o.short == some name).map OptionRule.effect

end Grammar

/-! ### Reading -/

/-- What has been read of a command line. -/
structure Reader where
  choices : Choices := {}
  /-- What is being chosen, with the value if it has come. -/
  pending : Option (Parameter × Option String) := none
  /-- Whether two dashes alone have been read. -/
  literal : Bool := false
  /-- Whether the place of a word has been filled. -/
  placed : Bool := false

namespace Reader

/-- Whether the next word can be the value of an option. -/
def awaits (r : Reader) : Bool :=
  match r.pending with
  | some (_, none) => !r.literal
  | _ => false

/-- Choose a value. -/
def put (r : Reader) (p : Parameter) (value : String) : Except Stop Reader :=
  match r.choices.put p value with
  | .ok c => .ok { r with choices := c, pending := none }
  | .error e => .error (.refused e)

/-- Choose what is being chosen. -/
def settle (r : Reader) : Except Stop Reader :=
  match r.pending with
  | none => .ok r
  | some (_, none) => .error (.refused .valueMissing)
  | some (p, some value) => r.put p value

/-- An option with the value that stands behind it in the same word. -/
def give (r : Reader) (p : Parameter) (value : String) : Except Stop Reader := do
  (← r.settle).put p value

/-- An option whose value is the next word. -/
def await (r : Reader) (p : Parameter) : Except Stop Reader := do
  return { ← r.settle with pending := some (p, none) }

/-- An option without a value. -/
def act (r : Reader) : Effect → Except Stop Reader
  | .choose p => r.await p
  | .query => do
    let r ← r.settle
    if r.choices.query then throw (.refused .repeated)
    else return { r with choices := { r.choices with query := true } }
  | .help => do
    let _ ← r.settle
    throw .help
  | .version => do
    let _ ← r.settle
    throw .version

/-- A long option, as it stands behind two dashes. -/
def readLong (g : Grammar) (r : Reader) (word : List Char) : Except Stop Reader :=
  let name := String.ofList (word.takeWhile (· != '='))
  match g.long? name, word.dropWhile (· != '=') with
  | none, _ => .error (.refused .unknownArgument)
  | some (.choose p), _ :: value => r.give p (String.ofList value)
  | some _, _ :: _ => .error (.refused .valueExcess)
  | some effect, [] => r.act effect

/-- Short options, as they stand behind a single dash. -/
def readShort (g : Grammar) (r : Reader) : List Char → Except Stop Reader
  | [] => .ok r
  | c :: cs =>
    match g.short? c, cs with
    | none, _ => .error (.refused .unknownArgument)
    | some (.choose p), [] => r.await p
    | some (.choose p), '=' :: value | some (.choose p), value => r.give p (String.ofList value)
    | some effect, _ => do readShort g (← r.act effect) cs

/-- A word in its place. -/
def readPlaced (g : Grammar) (r : Reader) (word : String) : Except Stop Reader :=
  match g.place, r.placed with
  | some p, false => do
    return { ← r.settle with pending := some (p, some word), placed := true }
  | _, _ =>
    if g.commands && !(r.literal && (CommandWord.ofText? word).isSome) then
      .error (.refused .unknownCommand)
    else .error (.refused .unknownArgument)

/-- One word that begins no command. -/
def readWord (g : Grammar) (r : Reader) (word : String) : Except Stop Reader :=
  if r.literal then r.readPlaced g word
  else
    match word.toList with
    | ['-', '-'] => .ok { r with literal := true }
    | '-' :: '-' :: cs => r.readLong g cs
    | '-' :: c :: cs => r.readShort g (c :: cs)
    | _ =>
      match r.awaits, r.pending with
      | true, some (p, _) => .ok { r with pending := some (p, some word) }
      | _, _ => r.readPlaced g word

/-- The command that a word begins where it stands. -/
def command? (g : Grammar) (r : Reader) (word : String) : Option CommandWord :=
  if g.commands && !r.literal && !r.awaits then CommandWord.ofText? word else none

/-- Read words until they end or a command comes, which is given back with the words behind it. -/
def readAll (g : Grammar) (r : Reader) :
    List String → Except Stop (Reader × Option (CommandWord × List String))
  | [] => .ok (r, none)
  | word :: words =>
    match r.command? g word with
    | some command => .ok (r, some (command, words))
    | none => do readAll g (← r.readWord g word) words

end Reader

end LabelFilter
