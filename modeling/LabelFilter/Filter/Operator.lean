import LabelFilter.Text.Blank
import LabelFilter.Text.Letters

/-!
# Operators

What a filter item can ask of a label. An operator is named by a token; the token may be written
in any letter case and with blanks around it, and some operators have a second token.

## Main definitions

* `Operator` — the operators
* `Operator.token` — the token an operator is shown as
* `Operator.tokens` — every token with its operator
* `Operator.ofToken?` — the operator that a token names
* `Arity`, `Operator.arity` — what an operator takes beside the key
-/

namespace LabelFilter

/-- What a filter item can ask of the text of a label. -/
inductive Operator where
  | equal
  | notEqual
  | oneOf
  | noneOf
  | like
  | notLike
  | regex
  | notRegex
  | present
  | absent
  deriving DecidableEq, Repr

/-- What an operator takes beside the key. -/
inductive Arity where
  /-- One value. -/
  | scalar
  /-- At least one value. -/
  | list
  /-- No value. -/
  | none
  deriving DecidableEq, Repr

/-- An arity as it is named in messages. -/
def Arity.text : Arity → String
  | .scalar => "a single value"
  | .list => "a non-empty list"
  | .none => "no value"

namespace Operator

/-- The token that an operator is shown as. -/
def token : Operator → String
  | .equal => "EQ"
  | .notEqual => "NEQ"
  | .oneOf => "IN"
  | .noneOf => "NOT_IN"
  | .like => "LIKE"
  | .notLike => "NOT_LIKE"
  | .regex => "MATCH"
  | .notRegex => "NOT_MATCH"
  | .present => "EXISTS"
  | .absent => "NOT_EXISTS"

/-- The tokens of the operators. -/
def tokens : List (String × Operator) :=
  [("EQ", .equal), ("NEQ", .notEqual), ("IN", .oneOf), ("NOT_IN", .noneOf), ("NIN", .noneOf),
   ("LIKE", .like), ("NOT_LIKE", .notLike), ("NLIKE", .notLike), ("MATCH", .regex),
   ("NOT_MATCH", .notRegex), ("NMATCH", .notRegex), ("EXISTS", .present),
   ("NOT_EXISTS", .absent), ("NEXISTS", .absent)]

/-- The operator that a token names, up to letter case and the blanks around it. -/
def ofToken? (token : String) : Option Operator :=
  (tokens.find? fun entry => Text.sameLetters entry.1 (Text.trim token)).map (·.2)

/-- What an operator takes beside the key. -/
def arity : Operator → Arity
  | .equal | .notEqual | .like | .notLike | .regex | .notRegex => .scalar
  | .oneOf | .noneOf => .list
  | .present | .absent => .none

end Operator

end LabelFilter
