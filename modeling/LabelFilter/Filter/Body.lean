import LabelFilter.Filter.Reading

/-!
# Bodies

A filter reaches the compiler as the body of a request or as the content of a file. A body is
refused unread when it is too long, and a filter when it has too many items. The message of a body
that is no document of its kind is that of the fault, without its position in the text.

## Main definitions

* `maxBodySize`, `defaultItemLimit` — the limits
* `BodyError` — why a body is refused
* `decodeBody` — the one value that a body holds
* `Filter.ofBody` — the filter that a body holds
-/

namespace LabelFilter

open Json (Doc Fault Decoder Document)

/-- The greatest length of a body, in octets. -/
def maxBodySize : Nat := 65536

/-- How many items a filter may have where nothing else is set. -/
def defaultItemLimit : Nat := 50

/-- Why a body is refused. -/
inductive BodyError where
  | tooLarge (limit : Nat)
  | malformed (fault : Fault)
  | tooManyItems (limit count : Nat)
  deriving DecidableEq, Repr

namespace BodyError

/-- The code that clients tell errors apart by. -/
def code : BodyError → String
  | .tooLarge _ => "FILTER_JSON_TOO_LARGE"
  | .malformed _ => "INVALID_FILTER_JSON"
  | .tooManyItems .. => "TOO_MANY_FILTERS"

/-- The wording of an error. -/
def message : BodyError → String
  | .tooLarge limit => "filter JSON exceeds maximum size of " ++ toString limit ++ " bytes"
  | .malformed fault => "invalid filter JSON: " ++ fault.message
  | .tooManyItems limit count =>
    "maximum " ++ toString limit ++ " filter items allowed, got " ++ toString count

end BodyError

/-- The one value that a text holds. The text after it may only be white space. -/
def decodeText {α : Type} (decode : Decoder α) (text : List Json.Octet) : Except Fault α := do
  let document := Document.ofOctets text
  let a ← decode document.root
  if document.trailing then throw .trailingText
  return a

/-- The one value that a body holds, unless the body is too long. -/
def decodeBody {α : Type} (decode : Decoder α) (body : ByteArray) : Except BodyError α :=
  if maxBodySize < body.size then .error (.tooLarge maxBodySize)
  else (decodeText decode body.toList).mapError .malformed

namespace Filter

/-- Whether a filter has no more than `limit` items. -/
def checkCount (filter : Filter) (limit : Nat) : Except BodyError Unit :=
  if limit < filter.items.length then .error (.tooManyItems limit filter.items.length)
  else .ok ()

/-- The filter that a body holds. -/
def ofBody (body : ByteArray) (limit : Nat) : Except BodyError Filter := do
  let filter ← decodeBody (Filter.ofDoc Doc.maxDepth) body
  filter.checkCount limit
  return filter

end Filter

end LabelFilter
