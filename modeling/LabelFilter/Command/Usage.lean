import LabelFilter.Aggregation
import LabelFilter.Sql.Dialect
import LabelFilter.Text.Blank
import LabelFilter.Text.Letters
import LabelFilter.Text.Numeral

/-!
# What is wrong with a command line

A command line is refused for its form, or because a value is none that its option takes. It may
also end early because it asks for help or for the version.

## Main definitions

* `Refusal` — why an option does not take a value
* `UsageError`, `Stop` — how the reading of a command line ends early
* `Dialect.ofWord`, `Aggregation.ofWord`, `portOfWord`, `limitOfWord`, `pathOfWord` — the values
  that options take
-/

namespace LabelFilter

/-- Why an option does not take a value. -/
inductive Refusal where
  | numeral (e : NumeralError)
  /-- The number is not from zero to `last`. -/
  | outside (n : Int) (last : Nat)
  | dialect (word : String)
  | aggregation (word : String)
  deriving DecidableEq, Repr

/-- The wording of a refusal. -/
def Refusal.message : Refusal → String
  | .numeral e => e.message
  | .outside n last => toString n ++ " is not in 0..=" ++ toString last
  | .dialect word =>
    "Invalid dialect '" ++ word ++ "'. Valid options: " ++
      ", ".intercalate (Dialect.all.map Dialect.name)
  | .aggregation word => "Invalid aggregation '" ++ word ++ "'"

/-- Why a command line is refused. -/
inductive UsageError where
  /-- An option stands without the value that it takes. -/
  | valueMissing
  /-- An option that takes no value has one. -/
  | valueExcess
  | valueRefused (r : Refusal)
  /-- An option that may stand once stands twice. -/
  | repeated
  /-- A word is no option and has no place. -/
  | unknownArgument
  /-- A word is no command where a command is due. -/
  | unknownCommand
  /-- An option that must be there is not. -/
  | argumentMissing
  deriving DecidableEq, Repr

/-- How the reading of a command line ends early. -/
inductive Stop where
  | help
  | version
  | refused (e : UsageError)
  deriving DecidableEq, Repr

/-! ### Values -/

/-- A dialect, in any letter case. -/
def Dialect.ofWord (word : String) : Except UsageError Dialect :=
  match all.find? fun d => Text.lowersTo word d.name with
  | some d => .ok d
  | none => .error (.valueRefused (.dialect word))

/-- An aggregation, in any case of its ASCII letters and with blank ends. -/
def Aggregation.ofWord (word : String) : Except UsageError Aggregation :=
  match ofToken? (Text.upper (Text.trim word)) with
  | some a => .ok a
  | none => .error (.valueRefused (.aggregation word))

/-- A port: a number of 64 bits that is in the range of ports. -/
def portOfWord (word : String) : Except UsageError UInt16 :=
  match Numeral.integer (UInt64.size / 2) word with
  | .error e => .error (.valueRefused (.numeral e))
  | .ok n =>
    if 0 ≤ n ∧ n < UInt16.size then .ok (UInt16.ofNat n.toNat)
    else .error (.valueRefused (.outside n (UInt16.size - 1)))

/-- A number of items. -/
def limitOfWord (word : String) : Except UsageError Nat :=
  (Numeral.natural UInt64.size word).mapError fun e => .valueRefused (.numeral e)

/-- A path, which must not be empty. -/
def pathOfWord (word : String) : Except UsageError String :=
  if word = "" then .error .valueMissing else .ok word

end LabelFilter
