import LabelFilter.Command.Program

/-!
# Running the program

Gathers what a run can see, asks what it comes to, and prints that.
-/

namespace LabelFilter.Running

/-- What is at some components from the root, if anything. -/
def probe (place : List String) : IO (Option FileTree.Node) := do
  match ← (IO.FS.readBinFile ("/" ++ "/".intercalate place)).toBaseIO with
  | .ok content => return some (.file content)
  | .error (.inappropriateType _ 21 _) => return some .directory
  | .error _ => return none

/-- The places that a path from the root goes through. -/
def placesOf (path : String) : List (List String) :=
  ((Path.components path).foldl (fun (place, places) c =>
    if c = "" ∨ c = "." then (place, places)
    else if c = ".." then (place.dropLast, places)
    else (place ++ [c], places ++ [place ++ [c]])) (([] : List String), [])).2

/-- The files at some paths, with the directories above them. -/
def gather (paths : List String) : IO FileTree := do
  let places := (paths.flatMap placesOf).eraseDups
  let nodes ← places.filterMapM fun place => do
    return (← probe place).map fun node => (place, node)
  return ⟨nodes⟩

/-- The variables of the environment with some names. -/
def gatherEnvironment (names : List String) : IO Environment :=
  names.filterMapM fun name => do
    if name = "" then return none
    else return (← IO.getEnv name).map fun value => (name, value)

/-- What a run is given. -/
def gatherCall (arguments : List String) : IO Call := do
  let directory := toString (← IO.currentDir)
  let files ← gather (EnvironmentFile.candidates directory)
  let mentioned :=
    match EnvironmentFile.find? files (EnvironmentFile.upwards directory) with
    | some content => EnvironmentFile.mentioned content.toList
    | none => []
  let names := "HOME" :: Parameter.shared.filterMap Parameter.variableName? ++ mentioned
  let environment ← gatherEnvironment names
  let call : Call := ⟨arguments, environment, files, directory, .empty⟩
  let extended := call.extended?.getD call
  let more ← gather extended.candidates
  let call := { call with files := ⟨files.nodes ++ more.nodes⟩ }
  if extended.readsStdin then return { call with stdin := ← (← IO.getStdin).readBinToEnd }
  else return call

end LabelFilter.Running

/-- Run the program. A server has nothing to listen with here, which is told as a failure. -/
def main (arguments : List String) : IO UInt32 := do
  let call ← LabelFilter.Running.gatherCall arguments
  match call.outcome with
  | .serving _ address port =>
    IO.eprintln ("\nError: Failed to bind " ++ address.textWithPort port ++ "\n")
    return 1
  | .aborted =>
    IO.eprintln "a variable of the environment file cannot be set"
    return LabelFilter.Outcome.aborted.status
  | .refused _ =>
    IO.eprintln ("error: invalid arguments\n\n" ++ LabelFilter.Call.helpText)
    return 2
  | outcome =>
    IO.print outcome.stdout
    IO.eprint outcome.stderr
    return outcome.status
