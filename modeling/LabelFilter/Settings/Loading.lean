import LabelFilter.Files.Tree
import LabelFilter.Settings.Reading
import LabelFilter.Settings.Resolution

/-!
# Loading settings

Settings come from two files and the options of a command. The profile is the file in the home
directory. The overlay is the file that an option names, and the file in the working directory
only if no option does. Options stand over the overlay, and the overlay over the profile.

A file that an option names must be there, which is checked before any file is read. The first
file that cannot be read or decoded decides the error, and a file that could be decoded gives a
warning about members that mean nothing, also when a later step fails. The message of a file that
cannot be decoded is that of the fault, without its position in the text.

## Main definitions

* `LoadError` — why settings cannot be loaded
* `Surroundings.profile`, `Surroundings.overlay` — where the files are
* `SettingsDocument.readAll` — reading files one after the other
* `Settings.load` — the settings that a command runs with
-/

namespace LabelFilter

/-- Why the text of a file cannot be had. -/
inductive TextError where
  | file (e : FileError)
  | notUtf8
  deriving DecidableEq, Repr

/-- The wording of an error. -/
def TextError.message : TextError → String
  | .file e => e.message
  | .notUtf8 => "stream did not contain valid UTF-8"

/-- Why settings cannot be loaded. -/
inductive LoadError where
  | absent (path : String)
  | unreadable (path : String) (e : TextError)
  | malformed (path : String) (fault : Json.Fault)
  | refused (e : SettingsError)
  deriving DecidableEq, Repr

/-- The wording of an error. -/
def LoadError.message : LoadError → String
  | .absent path => "Config file not found: " ++ path
  | .unreadable path e => "Failed to read config file: " ++ path ++ ": " ++ e.message
  | .malformed path fault => "Failed to parse config file: " ++ path ++ ": " ++ fault.message
  | .refused e => e.message

namespace Surroundings

/-- The name of settings files. -/
def settingsName : String := "labelsql.json"

/-- The directory below the home directory in which the profile is. -/
def profileDirectory : String := ".labelsql"

/-- Where the profile is looked for. -/
def profilePath (s : Surroundings) : Option String :=
  s.home.map fun h => Path.join (Path.join h profileDirectory) settingsName

/-- The profile, if there is one. -/
def profile (s : Surroundings) : Option String := s.profilePath.filter s.leads

/-- The overlay, if there is one: the file that an option names, which must be there, or the file
in the working directory. -/
def overlay (s : Surroundings) : Option String → Except LoadError (Option String)
  | some named =>
    if s.leads (s.expand named) then .ok (some (s.expand named))
    else .error (.absent (s.expand named))
  | none => .ok (if s.leads settingsName then some settingsName else none)

/-- The content of a file that must be a text. -/
def readText (s : Surroundings) (path : String) : Except TextError ByteArray := do
  let content ← (s.read path).mapError .file
  if content.validateUTF8 then return content else throw .notUtf8

end Surroundings

namespace SettingsDocument

/-- The settings file that a path leads to. -/
def read (s : Surroundings) (path : String) : Except LoadError SettingsDocument := do
  let content ← (s.readText path).mapError (.unreadable path)
  (decodeText (ofDoc Json.Doc.maxDepth) content.toList).mapError (.malformed path)

/-- The warning that a settings file gives, as the names that it is about. -/
def warning (d : SettingsDocument) : Option (List String) :=
  if d.unknown.isEmpty then none else some d.unknown

/-- Read settings files one after the other until one fails. The warnings of those that come
before the failure are kept. -/
def readAll (s : Surroundings) : List String → List (List String) × Except LoadError (List Layer)
  | [] => ([], .ok [])
  | path :: paths =>
    match read s path with
    | .error e => ([], .error e)
    | .ok d =>
      let (warnings, layers) := readAll s paths
      (d.warning.toList ++ warnings, layers.map (d.layer :: ·))

end SettingsDocument

namespace Settings

/-- The wording of a warning. -/
def warningText (names : List String) : String :=
  "Unknown fields in config file (possible typos): fields=" ++ ", ".intercalate names

/-- The settings that a command runs with, and the warnings on the way. The lower files come
first. -/
def load (s : Surroundings) (options : Layer) (named : Option String) :
    List (List String) × Except LoadError Settings :=
  match s.overlay named with
  | .error e => ([], .error e)
  | .ok overlay =>
    let (warnings, layers) := SettingsDocument.readAll s (s.profile.toList ++ overlay.toList)
    (warnings, do
      let files := (← layers).foldl (fun lower upper => upper.onTop lower) Layer.empty
      (options.onTop files).settings.mapError .refused)

end Settings

end LabelFilter
