import LabelFilter.Files.Path

/-!
# File trees

The files that a command can see, as plain data, with the rules by which a path leads to one of
them: a path goes through directories only, `.` stays, `..` goes up, and what stands before a
slash must be a directory. Names and paths have a greatest length, and no path holds the
character zero.

## Main definitions

* `FileTree`, `FileTree.Node` — files and directories
* `FileTree.resolve` — where a path leads
* `FileTree.exists?`, `FileTree.read` — asking for a file
* `FileError` — why a file cannot be read
* `Surroundings` — the files with the home directory and the working directory
-/

namespace LabelFilter

/-- Why a path leads to no file that can be read. -/
inductive FileError where
  | missing
  | isDirectory
  | notDirectory
  | tooLong
  | hasNul
  deriving DecidableEq, Repr

/-- The wording of an error of the file system. -/
def FileError.message : FileError → String
  | .missing => "No such file or directory (os error 2)"
  | .isDirectory => "Is a directory (os error 21)"
  | .notDirectory => "Not a directory (os error 20)"
  | .tooLong => "File name too long (os error 36)"
  | .hasNul => "file name contained an unexpected NUL byte"

/-- What a path can lead to. -/
inductive FileTree.Node where
  | file (content : ByteArray)
  | directory

/-- Files and directories by their components from the root. What lies above one of them is a
directory too. -/
structure FileTree where
  nodes : List (List String × FileTree.Node)

namespace FileTree

/-- What is at some components from the root. -/
def node? (t : FileTree) (place : List String) : Option Node :=
  match t.nodes.lookup place with
  | some n => some n
  | none =>
    if place = [] ∨ t.nodes.any fun n => place.isPrefixOf n.1 then some .directory else none

/-- The greatest number of octets of a name. -/
def maxName : Nat := 255

/-- The greatest number of octets of a path. -/
def maxPath : Nat := 4095

/-- Where components lead from a place. -/
def resolveFrom (t : FileTree) (place : List String) : List String → Except FileError Node
  | [] =>
    match t.node? place with
    | some n => .ok n
    | none => .error .missing
  | c :: cs =>
    match t.node? place with
    | none => .error .missing
    | some (.file _) => .error .notDirectory
    | some .directory =>
      if c = "" ∨ c = "." then t.resolveFrom place cs
      else if c = ".." then t.resolveFrom place.dropLast cs
      else if c.utf8ByteSize > maxName then .error .tooLong
      else t.resolveFrom (place ++ [c]) cs

/-- Where a path leads that counts from `directory`. -/
def resolve (t : FileTree) (directory p : String) : Except FileError Node :=
  if p.toList.contains '\x00' then .error .hasNul
  else if p = "" then .error .missing
  else if p.utf8ByteSize > maxPath then .error .tooLong
  else t.resolveFrom [] (Path.components (Path.join directory p))

/-- Whether a path leads somewhere. -/
def leads (t : FileTree) (directory p : String) : Bool :=
  (t.resolve directory p).isOk

/-- The content of the file that a path leads to. -/
def read (t : FileTree) (directory p : String) : Except FileError ByteArray := do
  match ← t.resolve directory p with
  | .file content => return content
  | .directory => throw .isDirectory

end FileTree

/-- What a command finds around it. -/
structure Surroundings where
  files : FileTree
  home : Option String
  /-- The working directory. -/
  directory : String

namespace Surroundings

/-- The absolute path that a user means. -/
def expand (s : Surroundings) (p : String) : String := Path.expand s.home s.directory p

/-- Whether a path leads somewhere. -/
def leads (s : Surroundings) (p : String) : Bool := s.files.leads s.directory p

/-- The content of the file that a path leads to. -/
def read (s : Surroundings) (p : String) : Except FileError ByteArray :=
  s.files.read s.directory p

end Surroundings

end LabelFilter
