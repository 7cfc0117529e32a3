import LabelFilter.Filter.Compiler
import LabelFilter.Filter.Reading

/-!
# Requests to compile a filter

A request states the metric and may state a filter, an aggregation, keys to leave out and
grouping tags. It is an object with the fields `metric_name`, `filter`, `aggregation`,
`exclude_keys` and `group_by`, or a list of them in this order in which the last ones may be left
out.

## Main definitions

* `CompileRequest` — what a client asks for
* `CompileRequest.ofDoc` — reading one
-/

namespace LabelFilter

open Json (Doc Fault Decoder)

/-- What a client asks for. -/
structure CompileRequest where
  metric : String
  filter : Filter
  aggregation : Aggregation
  excluded : List String
  tags : List String
  deriving Repr

namespace CompileRequest

/-- What the filter of a request is compiled for. -/
def scope (r : CompileRequest) : Scope := ⟨r.metric, r.excluded, r.aggregation⟩

/-- The filter of a request that states none. -/
def noFilter : Filter := ⟨.all, []⟩

/-- A list of texts. -/
def textsOfDoc : Decoder (List String) := Doc.asList Doc.asString

/-- The members of a request that have been read. -/
structure Members where
  metric : Option String := none
  filter : Option Filter := none
  aggregation : Option Aggregation := none
  excluded : Option (List String) := none
  tags : Option (List String) := none

namespace Members

/-- Read one member. -/
def read (room : Nat) (m : Members) (name : String) (d : Doc) : Except Fault Members :=
  match name with
  | "metric_name" => do return { m with metric := ← Doc.once name m.metric Doc.asString d }
  | "filter" => do return { m with filter := ← Doc.once name m.filter (Filter.ofDoc room) d }
  | "aggregation" => do
    return { m with aggregation := ← Doc.once name m.aggregation Aggregation.ofDoc d }
  | "exclude_keys" => do return { m with excluded := ← Doc.once name m.excluded textsOfDoc d }
  | "group_by" => do return { m with tags := ← Doc.once name m.tags textsOfDoc d }
  | _ => do
    d.skip
    return m

/-- The request that the members make. Only the metric must be stated. -/
def toRequest (m : Members) : Except Fault CompileRequest := do
  let metric ← Doc.need "metric_name" m.metric
  return ⟨metric, m.filter.getD noFilter, m.aggregation.getD .noop, m.excluded.getD [],
    m.tags.getD []⟩

end Members

/-- A request in which at most `room` lists and objects stand inside each other. -/
def ofDoc (room : Nat) : Decoder CompileRequest :=
  Doc.asRecord "CompileFilterRequest"
    (fun fields stop => do
      let missing := Fault.wrongLength 0 "struct CompileFilterRequest with 5 elements"
      let (metric, fields) ← Doc.nextOr (.error missing) Doc.asString fields stop
      let (filter, fields) ← Doc.nextOr (.ok noFilter) (Filter.ofDoc (room - 1)) fields stop
      let (aggregation, fields) ← Doc.nextOr (.ok .noop) Aggregation.ofDoc fields stop
      let (excluded, fields) ← Doc.nextOr (.ok []) textsOfDoc fields stop
      let (tags, fields) ← Doc.nextOr (.ok []) textsOfDoc fields stop
      Doc.endItems fields stop
      return ⟨metric, filter, aggregation, excluded, tags⟩)
    (fun ms stop => do (← Doc.members (Members.read (room - 1)) {} ms stop).toRequest)

end CompileRequest

end LabelFilter
