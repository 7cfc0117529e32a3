import LabelFilter.Command.Grammar

/-!
# Invocations

What a command line means. An option may stand in front of a command or behind it; behind it
wins, any option wins over the environment, and a variable of the environment counts wherever its
option does not stand, so a wrong one can be told although the option stands elsewhere.

## Main definitions

* `CompileCommand`, `Command`, `Invocation` — what is to be done
* `Invocation.ofWords` — the invocation that a command line means
-/

namespace LabelFilter

/-- A filter is to be compiled. -/
structure CompileCommand where
  file : Option String
  metric : String
  aggregation : Aggregation
  excluded : List String
  tags : List String
  /-- Whether the whole sub-query is wanted. -/
  query : Bool
  deriving DecidableEq, Repr

/-- What is to be done. -/
inductive Command where
  | start
  | compile (c : CompileCommand)
  deriving DecidableEq, Repr

/-- What a command line means. -/
structure Invocation where
  /-- Without a command the server is started. -/
  command : Option Command
  options : Layer
  /-- The settings file. -/
  config : Option String
  deriving DecidableEq, Repr

namespace Reader

/-- What the words of one grammar and the environment choose. -/
def complete (r : Reader) (env : Environment) : Except Stop (Choices × Choices) := do
  let r ← r.settle
  let inherited ← (r.choices.fromEnvironment env).mapError .refused
  return (r.choices, inherited)

end Reader

namespace Choices

/-- The command to compile a filter. -/
def compileCommand (c : Choices) : Except Stop CompileCommand :=
  match c.metric with
  | some metric =>
    .ok ⟨c.file, metric, c.aggregation.getD .noop, c.excluded, c.tags, c.query⟩
  | none => .error (.refused .argumentMissing)

end Choices

namespace Invocation

/-- An invocation with all that has been chosen, the first choices on top. -/
def ofChoices (command : Option Command) (choices : List Choices) : Invocation :=
  let chosen := choices.foldr Choices.onTop {}
  ⟨command, chosen.layer, chosen.config⟩

/-- What a request for help ends in. Only a command can be asked about, and none has commands of
its own. -/
def helpAbout (words : List String) : Stop :=
  match words with
  | [] => .help
  | [word] => if (CommandWord.ofText? word).isSome then .help else .refused .unknownCommand
  | _ => .refused .unknownCommand

/-- The invocation that a command line means. The words behind a command are looked at before
what stands in front of it. -/
def ofWords (env : Environment) (words : List String) : Except Stop Invocation := do
  match ← Reader.readAll .root {} words with
  | (outer, none) =>
    let (chosen, inherited) ← outer.complete env
    return ofChoices none [chosen, inherited]
  | (_, some (.help, words)) => throw (helpAbout words)
  | (outer, some (.start, words)) =>
    let (inner, _) ← Reader.readAll .start {} words
    let (chosen, inherited) ← inner.complete env
    let (chosenBefore, inheritedBefore) ← outer.complete env
    return ofChoices (some .start) [chosen, chosenBefore, inherited, inheritedBefore]
  | (outer, some (.compile, words)) =>
    let (inner, _) ← Reader.readAll .compile {} words
    let (chosen, inherited) ← inner.complete env
    let command ← chosen.compileCommand
    let (chosenBefore, inheritedBefore) ← outer.complete env
    return ofChoices (some (.compile command))
      [chosen, chosenBefore, inherited, inheritedBefore]

end Invocation

end LabelFilter
