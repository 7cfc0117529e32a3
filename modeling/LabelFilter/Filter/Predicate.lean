import LabelFilter.Filter.Condition
import LabelFilter.Sql.Dialect

/-!
# Conditions in SQL

How a condition on a label is written in a dialect. The labels of a series are in one column; a
label that is missing there reads as the empty text.

## Main definitions

* `labelsColumn` — the column that holds the labels
* `Condition.sql` — a condition as an expression
-/

namespace LabelFilter

/-- The column that holds the labels of a series. -/
def labelsColumn : String := "labels"

/-- A condition on a label that `column` holds, as an expression. -/
def Condition.sql (d : Dialect) (column : String) (c : Condition) : String :=
  let label := d.extract column c.key
  match c.test with
  | .equal v => label ++ " = " ++ d.literal v
  | .notEqual v => label ++ " != " ++ d.literal v
  | .oneOf vs => label ++ " IN " ++ d.list vs
  | .noneOf vs => label ++ " NOT IN " ++ d.list vs
  | .like p => d.like label p false
  | .notLike p => d.like label p true
  | .regex p => d.regex label p false
  | .notRegex p => d.regex label p true
  | .present => d.hasLabel column c.key
  | .absent => "NOT " ++ d.hasLabel column c.key

end LabelFilter
