import LabelFilter.Sql.Literal

/-!
# Identifiers

A plain name is written as it is; any other name stands between quote characters of the dialect.

## Main definitions

* `Sql.isPlain` — the names that need no quotes
* `Sql.identifier` — the written form of a name
-/

namespace LabelFilter.Sql

/-- The characters that may begin a plain name. -/
def isPlainStart (c : Char) : Bool :=
  c.isAlpha || c = '_'

/-- The characters that may follow in a plain name. -/
def isPlainRest (c : Char) : Bool :=
  c.isAlphanum || c = '_'

/-- Whether `cs` is an ASCII letter or underscore followed by such characters and digits. -/
def isPlainChars : List Char → Bool
  | [] => false
  | c :: cs => isPlainStart c && cs.all isPlainRest

/-- Whether a name needs no quotes. -/
def isPlain (name : String) : Bool :=
  isPlainChars name.toList

/-- How one character of a name is written between quote characters: the quote character is
doubled, and so is the backslash where it would take the next character. -/
def identifierChar (quote : Char) (style : Quoting) (c : Char) : List Char :=
  if c = quote ∨ (c = '\\' ∧ style = .backslash) then [c, c] else [c]

/-- The name between quote characters. -/
def quotedName (quote : Char) (style : Quoting) (cs : List Char) : List Char :=
  quote :: (cs.flatMap (identifierChar quote style) ++ [quote])

/-- The written form of a name: bare if it is plain, between quote characters if not. -/
def identifier (quote : Char) (style : Quoting) (name : String) : String :=
  if isPlain name then name else String.ofList (quotedName quote style name.toList)

theorem identifier_of_isPlain {name : String} (h : isPlain name = true) (quote : Char)
    (style : Quoting) : identifier quote style name = name := by
  simp [identifier, h]

end LabelFilter.Sql
