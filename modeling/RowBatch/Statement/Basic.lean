/-!
The four kinds of statement, the two dialects in which they name the incoming row, and the marks
that stand for the parameters, listed row by row.
-/

namespace RowBatch

inductive Dialect where
  | excluded
  | values
deriving DecidableEq, Inhabited

namespace Dialect

/-- How a conflict clause refers to the value that was about to be written to a column. -/
def incoming (d : Dialect) (column : String) : String :=
  match d with
  | .excluded => "EXCLUDED." ++ column
  | .values => "VALUES(" ++ column ++ ")"

end Dialect

inductive StatementKind where
  | insertDoNothing
  | insertIgnore
  | upsertExcluded
  | upsertValues
deriving DecidableEq, Inhabited

namespace StatementKind

def name : StatementKind → String
  | .insertDoNothing => "insert do nothing"
  | .insertIgnore => "insert ignore"
  | .upsertExcluded => "upsert excluded"
  | .upsertValues => "upsert values"

def dialect : StatementKind → Dialect
  | .insertDoNothing | .upsertExcluded => .excluded
  | .insertIgnore | .upsertValues => .values

def isUpsert : StatementKind → Bool
  | .insertDoNothing | .insertIgnore => false
  | .upsertExcluded | .upsertValues => true

end StatementKind

inductive PlaceholderStyle where
  | questionMark
  | numbered
deriving DecidableEq

instance : Inhabited PlaceholderStyle := ⟨.questionMark⟩

namespace PlaceholderStyle

/-- The mark of the parameter at a position; positions start at zero and numbers at one. -/
def placeholder (style : PlaceholderStyle) (index : Nat) : String :=
  match style with
  | .questionMark => "?"
  | .numbered => "$" ++ Nat.repr (index + 1)

def tuple (style : PlaceholderStyle) (columns base : Nat) : String :=
  "(" ++ String.intercalate ", " ((List.range columns).map fun c => style.placeholder (base + c)) ++
    ")"

/-- The marks of `rows` rows of `columns` columns, numbered through. -/
def valuesClause (style : PlaceholderStyle) (columns rows : Nat) : String :=
  String.intercalate ", " ((List.range rows).map fun r => style.tuple columns (r * columns))

end PlaceholderStyle
end RowBatch
