/-!
# The program

The name under which the program is run, and its version.
-/

namespace LabelFilter

/-- The name of the program. -/
def programName : String := "labelsql"

/-- The version of the program. -/
def programVersion : String := "0.1.0"

end LabelFilter
