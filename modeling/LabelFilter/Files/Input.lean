import LabelFilter.Files.Tree

/-!
# Input

What a command reads is the file that it is given, or the standard input when it is given none or
a single dash.

## Main definitions

* `Path.isDash` — the paths that mean the standard input
* `Surroundings.input` — what a command reads
-/

namespace LabelFilter

/-- Why the input cannot be had. -/
structure InputError where
  path : String
  cause : FileError
  deriving DecidableEq, Repr

/-- The wording of an error. -/
def InputError.message (e : InputError) : String :=
  "Failed to read input file: " ++ e.path ++ ": " ++ e.cause.message

/-- Whether a path means the standard input: a dash, behind which components may stand that lead
nowhere else. -/
def Path.isDash (p : String) : Bool :=
  match components p with
  | "-" :: rest => rest.all fun c => c == "" || c == "."
  | _ => false

namespace Surroundings

/-- What a command reads that is given `path`, if `stdin` is its standard input. -/
def input (s : Surroundings) (stdin : ByteArray) : Option String → Except InputError ByteArray
  | none => .ok stdin
  | some p =>
    if Path.isDash p then .ok stdin
    else (s.read (s.expand p)).mapError (⟨s.expand p, ·⟩)

end Surroundings

end LabelFilter
