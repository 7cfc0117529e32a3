/-!
# String literals

A string literal is a text between single quotes. Two styles of escaping are in use: a quote is
written twice and nothing else is special, or a backslash takes the next character.

## Main definitions

* `Sql.Quoting` — the two styles
* `Sql.escapeChar`, `Sql.escapeText` — the inside of a literal
* `Sql.literal`, `Sql.literals` — one literal, and a row of them
-/

namespace LabelFilter.Sql

/-- How a character that would end a literal is written inside it. -/
inductive Quoting where
  /-- A backslash stands before the quote and before itself, and NUL is a backslash and a zero. -/
  | backslash
  /-- A quote is written twice. -/
  | doubled
  deriving DecidableEq, Repr

/-- How one character of a text is written inside a literal. -/
def escapeChar (style : Quoting) (c : Char) : List Char :=
  match style with
  | .doubled => if c = '\'' then ['\'', '\''] else [c]
  | .backslash =>
    if c = '\\' then ['\\', '\\']
    else if c = '\'' then ['\\', '\'']
    else if c = '\x00' then ['\\', '0']
    else [c]

/-- The inside of the literal of a text. -/
def escapeChars (style : Quoting) (cs : List Char) : List Char :=
  cs.flatMap (escapeChar style)

/-- The inside of the literal of a text. -/
def escapeText (style : Quoting) (s : String) : String :=
  String.ofList (escapeChars style s.toList)

/-- The literal of a text. -/
def literal (style : Quoting) (s : String) : String :=
  "'" ++ escapeText style s ++ "'"

/-- The literals of some texts, with `separator` between them. -/
def literals (style : Quoting) (separator : String) (values : List String) : String :=
  separator.intercalate (values.map (literal style))

theorem toList_literal (style : Quoting) (s : String) :
    (literal style s).toList = '\'' :: (escapeChars style s.toList ++ ['\'']) := by
  simp [literal, escapeText]

end LabelFilter.Sql
