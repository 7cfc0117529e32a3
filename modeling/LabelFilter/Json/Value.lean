import LabelFilter.Json.Number

/-!
# JSON values

A value is what a whole document denotes: its strings are texts and its numbers are in range.
Members of an object are kept in the order of the text, repeated keys included.

## Main definitions

* `Json.Value` — values
-/

namespace LabelFilter.Json

/-- What a whole JSON text denotes. -/
inductive Value where
  | null
  | bool (b : Bool)
  | number (m : Magnitude)
  | string (s : String)
  | list (items : List Value)
  | object (members : List (String × Value))

end LabelFilter.Json
