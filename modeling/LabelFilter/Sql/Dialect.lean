import LabelFilter.Sql.Identifier

/-!
# Dialects

The two SQL dialects that a predicate can be written in, and how each of them spells the
expressions that a predicate is made of. Labels are read out of a column that holds a JSON object.

## Main definitions

* `Dialect` — the dialects; `Dialect.name` is the word that selects one
* `Dialect.literal`, `Dialect.identifier`, `Dialect.list` — names and values
* `Dialect.labelPath` — the path that selects one member of a JSON object
* `Dialect.extract`, `Dialect.hasLabel`, `Dialect.like`, `Dialect.regex` — expressions
-/

namespace LabelFilter

/-- The SQL dialects. -/
inductive Dialect where
  | clickhouse
  | duckdb
  deriving DecidableEq, Repr, Inhabited

namespace Dialect

/-- Every dialect, the default one first. -/
def all : List Dialect := [.clickhouse, .duckdb]

/-- The word that selects a dialect. -/
def name : Dialect → String
  | .clickhouse => "clickhouse"
  | .duckdb => "duckdb"

/-- The dialect that a word selects. -/
def ofName? (s : String) : Option Dialect :=
  all.find? fun d => d.name == s

/-- How string literals are escaped. -/
def quoting : Dialect → Sql.Quoting
  | .clickhouse => .backslash
  | .duckdb => .doubled

/-- The character around a name that is not plain. -/
def nameQuote : Dialect → Char
  | .clickhouse => '\x60'
  | .duckdb => '"'

/-- A text as a string literal. -/
def literal (d : Dialect) (s : String) : String :=
  Sql.literal d.quoting s

/-- A name as an identifier. -/
def identifier (d : Dialect) (name : String) : String :=
  Sql.identifier d.nameQuote d.quoting name

/-- How one character of a key is written inside a path. -/
def pathChar (c : Char) : List Char :=
  if c = '\\' ∨ c = '"' then ['\\', c] else [c]

/-- The path that selects the member `key` of a JSON object: the key stands between double
quotes, where a backslash takes the next character. -/
def labelPath (key : String) : String :=
  String.ofList ('$' :: '.' :: '"' :: (key.toList.flatMap pathChar ++ ['"']))

/-- The text of the member `key` of the object in `column`, empty if there is none. -/
def extract (d : Dialect) (column key : String) : String :=
  match d with
  | .clickhouse => "JSONExtractString(" ++ column ++ ", " ++ d.literal key ++ ")"
  | .duckdb =>
    "coalesce(json_extract_string(" ++ column ++ ", " ++ d.literal (labelPath key) ++ "), '')"

/-- Whether the object in `column` has the member `key`. -/
def hasLabel (d : Dialect) (column key : String) : String :=
  match d with
  | .clickhouse => "JSONHas(" ++ column ++ ", " ++ d.literal key ++ ")"
  | .duckdb => "json_exists(" ++ column ++ ", " ++ d.literal (labelPath key) ++ ")"

/-- A list of values, as the right side of a membership test. -/
def list (d : Dialect) (values : List String) : String :=
  match d with
  | .clickhouse => "[" ++ Sql.literals d.quoting "," values ++ "]"
  | .duckdb => "(" ++ Sql.literals d.quoting ", " values ++ ")"

/-- Whether the text of an expression has the form of a `%` and `_` pattern. -/
def like (d : Dialect) (expression pattern : String) (negated : Bool) : String :=
  match d with
  | .clickhouse =>
    (if negated then "notLike(" else "like(") ++ expression ++ ", " ++ d.literal pattern ++ ")"
  | .duckdb =>
    expression ++ (if negated then " NOT LIKE " else " LIKE ") ++ d.literal pattern

/-- Whether a regular expression matches in the text of an expression. -/
def regex (d : Dialect) (expression pattern : String) (negated : Bool) : String :=
  (if negated then "NOT " else "") ++
    (match d with
      | .clickhouse => "match("
      | .duckdb => "regexp_matches(") ++ expression ++ ", " ++ d.literal pattern ++ ")"

end Dialect

end LabelFilter
