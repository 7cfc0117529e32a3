/-!
# The environment

The variables that a program is started with, by their names.

## Main definitions

* `Environment`, `Environment.get?`, `Environment.add` — variables, asking for one, adding one
-/

namespace LabelFilter

/-- Variables by their names. Of two with one name the first counts. -/
abbrev Environment := List (String × String)

namespace Environment

/-- The value of a variable. -/
def get? (env : Environment) (name : String) : Option String := env.lookup name

/-- An environment with a further variable. A variable that is there already keeps its value. -/
def add (env : Environment) (name value : String) : Environment :=
  if (env.get? name).isSome then env else env ++ [(name, value)]

end Environment

end LabelFilter
