import LabelFilter.Command.Environment
import LabelFilter.Command.Usage
import LabelFilter.Settings.Layer

/-!
# Choices

What the options of a command line choose, and what variables of the environment choose where no
option does.

## Main definitions

* `Parameter` — what can be chosen
* `Choices`, `Choices.put` — what has been chosen so far
* `Choices.fromEnvironment` — what the environment adds
* `Choices.onTop` — choices on top of others
-/

namespace LabelFilter

/-- What an option or a word in its place can choose. -/
inductive Parameter where
  | host
  | port
  | config
  | dialect
  | database
  | table
  | itemLimit
  | file
  | metric
  | aggregation
  | exclude
  | groupBy
  deriving DecidableEq, Repr

namespace Parameter

/-- The parameters of every command, in the order in which the environment is asked for them. -/
def shared : List Parameter := [.host, .port, .config, .dialect, .database, .table, .itemLimit]

/-- The variable of the environment that stands for a parameter. -/
def variableName? : Parameter → Option String
  | .host => some "LABELSQL_HOST"
  | .port => some "LABELSQL_PORT"
  | .config => some "LABELSQL_CONFIG"
  | .dialect => some "LABELSQL_DIALECT"
  | .database => some "LABELSQL_DATABASE"
  | .table => some "LABELSQL_TABLE"
  | .itemLimit => some "LABELSQL_MAX_FILTER_ITEMS"
  | _ => none

end Parameter

/-- What has been chosen. -/
structure Choices where
  layer : Layer := {}
  /-- The settings file. -/
  config : Option String := none
  /-- The file with the filter. -/
  file : Option String := none
  metric : Option String := none
  aggregation : Option Aggregation := none
  excluded : List String := []
  tags : List String := []
  /-- Whether the whole sub-query is wanted. -/
  query : Bool := false
  deriving DecidableEq, Repr, Inhabited

namespace Choices

/-- A choice that can be made once. -/
def once {α : Type} (slot : Option α) (value : Except UsageError α) :
    Except UsageError (Option α) :=
  match slot with
  | some _ => .error .repeated
  | none => value.map some

/-- Choose a value. Keys and tags can be chosen repeatedly. -/
def put (c : Choices) (p : Parameter) (word : String) : Except UsageError Choices := do
  match p with
  | .host => return { c with layer.host := ← once c.layer.host (.ok word) }
  | .port => return { c with layer.port := ← once c.layer.port (portOfWord word) }
  | .config => return { c with config := ← once c.config (pathOfWord word) }
  | .dialect => return { c with layer.dialect := ← once c.layer.dialect (Dialect.ofWord word) }
  | .database => return { c with layer.database := ← once c.layer.database (.ok word) }
  | .table => return { c with layer.table := ← once c.layer.table (.ok word) }
  | .itemLimit =>
    return { c with layer.itemLimit := ← once c.layer.itemLimit (limitOfWord word) }
  | .file => return { c with file := ← once c.file (pathOfWord word) }
  | .metric => return { c with metric := ← once c.metric (.ok word) }
  | .aggregation =>
    return { c with aggregation := ← once c.aggregation (Aggregation.ofWord word) }
  | .exclude => return { c with excluded := c.excluded ++ [word] }
  | .groupBy => return { c with tags := c.tags ++ [word] }

/-- Whether a shared parameter has been chosen. -/
def has (c : Choices) : Parameter → Bool
  | .host => c.layer.host.isSome
  | .port => c.layer.port.isSome
  | .config => c.config.isSome
  | .dialect => c.layer.dialect.isSome
  | .database => c.layer.database.isSome
  | .table => c.layer.table.isSome
  | .itemLimit => c.layer.itemLimit.isSome
  | _ => false

/-- What the variables of the environment choose of the shared parameters that have not been
chosen. -/
def fromEnvironment (c : Choices) (env : Environment) : Except UsageError Choices :=
  Parameter.shared.foldlM (fun chosen p =>
    match p.variableName?.bind env.get? with
    | some word => if c.has p then .ok chosen else chosen.put p word
    | none => .ok chosen) {}

/-- The shared parameters of some choices on top of those of others. -/
def onTop (upper lower : Choices) : Choices :=
  { upper with layer := upper.layer.onTop lower.layer, config := upper.config.or lower.config }

end Choices

end LabelFilter
