import LabelFilter.Text.Blank

/-!
# Paths

Paths are texts whose components stand between slashes. A path that a user states may begin with
a tilde for the home directory, and counts from the working directory unless it begins with a
slash.

## Main definitions

* `Path.isAbsolute`, `Path.join` — putting paths together
* `Path.components` — what stands between the slashes
* `Path.expand` — the absolute path that a user means

## Main results

* `Path.isAbsolute_join` — a path on an absolute one is absolute
* `Path.isAbsolute_expand` — an expanded path is absolute
-/

namespace LabelFilter.Path

/-- Whether a path counts from the root. -/
def isAbsolute (p : String) : Bool := p.toList.head? == some '/'

/-- The path `p` counted from `base`. A path that counts from the root stays as it is; a slash is
added where none ends `base`, even before an empty path. -/
def join (base p : String) : String :=
  if isAbsolute p then p
  else if base.toList.getLast? = some '/' ∨ base = "" then base ++ p
  else base ++ "/" ++ p

/-- The texts between the slashes. -/
def componentsFrom (word : List Char) : List Char → List String
  | [] => [String.ofList word.reverse]
  | c :: cs =>
    if c = '/' then String.ofList word.reverse :: componentsFrom [] cs
    else componentsFrom (c :: word) cs

/-- The texts between the slashes of a path. -/
def components (p : String) : List String := componentsFrom [] p.toList

/-- The path with its leading tilde replaced by the home directory, if there is one. -/
def expandTilde (home : Option String) (p : String) : String :=
  match p.toList, home with
  | ['~'], some h => h
  | '~' :: '/' :: rest, some h => join h (String.ofList rest)
  | _, _ => p

/-- The absolute path that a user means by `p`. -/
def expand (home : Option String) (directory p : String) : String :=
  join directory (expandTilde home (Text.trim p))

theorem isAbsolute_append {p : String} (h : isAbsolute p = true) (q : String) :
    isAbsolute (p ++ q) = true := by
  simp only [isAbsolute, String.toList_append] at h ⊢
  cases hp : p.toList with
  | nil => simp [hp] at h
  | cons c cs => simpa [hp] using h

theorem isAbsolute_join {base : String} (h : isAbsolute base = true) (p : String) :
    isAbsolute (join base p) = true := by
  unfold join
  split
  · assumption
  · split
    · exact isAbsolute_append h p
    · rw [String.append_assoc]
      exact isAbsolute_append h _

theorem isAbsolute_expand (home : Option String) {directory : String}
    (h : isAbsolute directory = true) (p : String) :
    isAbsolute (expand home directory p) = true :=
  isAbsolute_join h _

end LabelFilter.Path
