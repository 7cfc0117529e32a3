import LabelFilter.Command.EnvironmentFile
import LabelFilter.Command.Invocation
import LabelFilter.Files.Input
import LabelFilter.Http.Address
import LabelFilter.Http.Service
import LabelFilter.Settings.Loading

/-!
# The program

What a run of the program comes to: its arguments, its environment, the files that it can see and
its standard input decide what it prints, or what it serves.

## Main definitions

* `Call`, `Outcome` — what a run is given, and what it comes to
* `RunError` — why a run fails
* `Settings.compile` — the command that compiles a filter
* `Call.extended?` — a run with the variables of the environment file
* `Call.outcome` — what a run comes to
-/

namespace LabelFilter

/-- What a run is given. -/
structure Call where
  arguments : List String
  environment : Environment
  files : FileTree
  /-- The working directory. -/
  directory : String
  /-- The standard input. -/
  stdin : ByteArray

/-- Why a run fails. -/
inductive RunError where
  | load (e : LoadError)
  | input (e : InputError)
  | body (e : BodyError)
  | item (e : ItemError)
  | host (name : String)
  deriving DecidableEq, Repr

/-- The wording of an error, from the outermost cause to the innermost. -/
def RunError.message : RunError → String
  | .load e => e.message
  | .input e => e.message
  | .body (.malformed fault) =>
    "Failed to decode filter set: " ++ (BodyError.malformed fault).message ++ ": " ++
      fault.message
  | .body e => "Failed to decode filter set: " ++ e.message
  | .item e => e.message
  | .host name => "Invalid server host: " ++ name ++ ": invalid IP address syntax"

/-- What a run comes to. -/
inductive Outcome where
  | printed (text : String)
  | refused (e : UsageError)
  | failed (e : RunError)
  /-- A variable of the environment file cannot be set. -/
  | aborted
  /-- A server is to answer at an address. -/
  | serving (service : Http.Service) (address : Address) (port : UInt16)

namespace Outcome

/-- The status that the run ends with. -/
def status : Outcome → UInt32
  | .printed _ | .serving .. => 0
  | .failed _ => 1
  | .refused _ => 2
  | .aborted => 101

/-- What is printed. -/
def stdout : Outcome → String
  | .printed text => text ++ "\n"
  | _ => ""

/-- What is told of an error. -/
def stderr : Outcome → String
  | .failed e => "\nError: " ++ e.message ++ "\n\n"
  | _ => ""

end Outcome

namespace Settings

/-- Compile the filter that a body holds: to a sub-query if one is wanted or grouping tags are
stated, and to a predicate otherwise. -/
def compileBody (s : Settings) (c : CompileCommand) (body : ByteArray) :
    Except RunError String := do
  let filter ← (Filter.ofBody body s.itemLimit).mapError .body
  let scope : Scope := ⟨c.metric, c.excluded, c.aggregation⟩
  let text :=
    if c.query ∨ c.tags ≠ [] then s.compiler.subQuery s.source filter scope c.tags
    else s.compiler.predicate filter scope
  text.mapError .item

/-- Compile the filter that a command is given. -/
def compile (s : Settings) (c : CompileCommand) (around : Surroundings) (stdin : ByteArray) :
    Except RunError String := do
  let body ← (around.input stdin c.file).mapError .input
  s.compileBody c body

/-- Start the server. Its host must be a network address. -/
def start (s : Settings) : Outcome :=
  match Address.ofText? s.host with
  | some address => .serving (.ofSettings s) address s.port
  | none => .failed (.host s.host)

end Settings

namespace Call

/-- The run with the variables of the environment file, or none if one of them cannot be set. -/
def extended? (c : Call) : Option Call :=
  (EnvironmentFile.load c.files c.directory c.environment).map fun env =>
    { c with environment := env }

/-- The files with the home directory that the environment states. -/
def surroundings (c : Call) : Surroundings :=
  ⟨c.files, (c.environment.get? "HOME").filter (· ≠ ""), c.directory⟩

/-- The files that a run may ask for once its environment is known, as paths from the root. -/
def candidates (c : Call) : List String :=
  match Invocation.ofWords c.environment c.arguments with
  | .error _ => []
  | .ok i =>
    let around := c.surroundings
    let input :=
      match i.command with
      | some (.compile command) => command.file
      | _ => none
    let named := i.config.toList ++ input.toList
    (around.profilePath.toList ++ [Surroundings.settingsName]).map (Path.join c.directory) ++
      named.map around.expand

/-- Whether a run reads its standard input if nothing fails before. -/
def readsStdin (c : Call) : Bool :=
  match Invocation.ofWords c.environment c.arguments with
  | .ok ⟨some (.compile command), _, _⟩ => command.file.all Path.isDash
  | _ => false

/-- What an invocation comes to. -/
def follow (c : Call) (i : Invocation) : Outcome :=
  match (Settings.load c.surroundings i.options i.config).2 with
  | .error e => .failed (.load e)
  | .ok settings =>
    match i.command with
    | some (.compile command) =>
      match settings.compile command c.surroundings c.stdin with
      | .ok text => .printed text
      | .error e => .failed e
    | some .start | none => settings.start

/-- What is printed about the version. -/
def versionText : String := programName ++ " " ++ programVersion

/-- What is printed as help. -/
def helpText : String :=
  "\n".intercalate
    ["Usage: " ++ programName ++ " [OPTIONS] [COMMAND]", "",
     "Commands:",
     "  start                 Start the server (default command)",
     "  compile [FILE]        Compile a filter and print the predicate", "",
     "Options of compile:",
     "  -m, --metric <NAME>   Metric the predicate is scoped to",
     "  -a, --aggregation <A> Aggregation of the enclosing query",
     "  -x, --exclude <KEY>   Label key to skip (repeatable)",
     "  -g, --group-by <TAG>  Grouping tag of the sub-query (repeatable)",
     "      --query           Print the sub-query instead of the predicate", "",
     "Options:",
     "  -H, --host <HOST>     Address of the server",
     "  -p, --port <PORT>     Port of the server",
     "  -c, --config <FILE>   Settings file",
     "      --dialect <NAME>  SQL dialect",
     "      --database <NAME> Database that holds the series",
     "      --table <NAME>    Table that holds the series",
     "      --max-filter-items <N>",
     "  -h, --help",
     "  -V, --version"]

/-- What a run comes to whose environment is complete. -/
def proceed (c : Call) : Outcome :=
  match Invocation.ofWords c.environment c.arguments with
  | .ok i => c.follow i
  | .error .help => .printed helpText
  | .error .version => .printed versionText
  | .error (.refused e) => .refused e

/-- What a run comes to. -/
def outcome (c : Call) : Outcome :=
  match c.extended? with
  | some extended => extended.proceed
  | none => .aborted

end Call

end LabelFilter
