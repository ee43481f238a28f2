import RowBatch.Statement.Basic
import RowBatch.Text.Basic

/-!
The column names that configure a batch, and the reasons why a batch can not be configured. At
least one column is inserted, and no inserted or conflicting column has a blank name.
-/

namespace RowBatch

inductive FieldList where
  | insert
  | conflict
  | returning
deriving DecidableEq

namespace FieldList

def name : FieldList → String
  | .insert => "insert"
  | .conflict => "conflict"
  | .returning => "return"

end FieldList

inductive ExpressionFault where
  | missingTarget
  | missingReference
  | secondOperator
deriving DecidableEq

namespace ExpressionFault

def message : ExpressionFault → String
  | .missingTarget => "missing target column"
  | .missingReference => "missing reference column"
  | .secondOperator => "only one operator is allowed"

end ExpressionFault

inductive ConfigError where
  | invalidBatchSize
  | emptyTableName
  | emptyInsertFields
  | emptyColumnName (list : FieldList)
  | missingConflictFields (kind : StatementKind)
  | missingExpressionFields (kind : StatementKind)
  | expressionsNotSupported (kind : StatementKind)
  | returningNotSupported (kind : StatementKind)
  | emptyExpression
  | unsupportedOperator (symbol : Char)
  | malformedExpression (raw : String) (fault : ExpressionFault)
  | missingConcatDelimiter (raw : String)
deriving DecidableEq

namespace ConfigError

def message : ConfigError → String
  | .invalidBatchSize => "The number of operations per statement must be 1 or more"
  | .emptyTableName => "The table name can not be empty"
  | .emptyInsertFields => "The insert field list is empty"
  | .emptyColumnName list => "The " ++ list.name ++ " field list contains an empty column name"
  | .missingConflictFields kind =>
    "Conflict fields are required for " ++ kind.name ++ " statements"
  | .missingExpressionFields kind =>
    "At least one expression field is required for " ++ kind.name ++ " statements"
  | .expressionsNotSupported kind =>
    "Expression fields are not supported for " ++ kind.name ++ " statements"
  | .returningNotSupported kind =>
    "Return fields are not supported for " ++ kind.name ++ " statements"
  | .emptyExpression => "The expression field can not be empty"
  | .unsupportedOperator symbol => "Operator '" ++ symbol.toString ++ "' not supported"
  | .malformedExpression raw fault =>
    "Expression '" ++ raw ++ "' is malformed: " ++ fault.message
  | .missingConcatDelimiter raw =>
    "Expression '" ++ raw ++
      "' needs a single character concatenation delimiter, e.g. 'tags|topic|,'"

section Checks

variable {α β : Type} {x : Except ConfigError α} {b : β}

theorem bind_eq_ok_iff {f : α → Except ConfigError β} :
    x >>= f = .ok b ↔ ∃ a, x = .ok a ∧ f a = .ok b := by
  cases x <;> simp [bind, Except.bind]

theorem map_eq_ok_iff {f : α → β} : x.map f = .ok b ↔ ∃ a, x = .ok a ∧ f a = b := by
  cases x <;> simp [Except.map]

end Checks

end ConfigError

def checkNamed (list : FieldList) (columns : List String) : Except ConfigError Unit :=
  if columns.any Text.isBlank then .error (.emptyColumnName list) else .ok ()

theorem checkNamed_eq_ok_iff {list : FieldList} {columns : List String} :
    checkNamed list columns = .ok () ↔ ∀ c ∈ columns, Text.isBlank c = false := by
  unfold checkNamed
  split <;> simp_all

structure FieldSet where
  insert : List String
  conflict : List String
  expression : List String
  insert_ne_nil : insert ≠ []
  insert_named : ∀ c ∈ insert, Text.isBlank c = false
  conflict_named : ∀ c ∈ conflict, Text.isBlank c = false

namespace FieldSet

def arity (f : FieldSet) : Nat := f.insert.length

theorem arity_pos (f : FieldSet) : 0 < f.arity :=
  List.length_pos_iff.mpr f.insert_ne_nil

/-- Checks the lists in the order insert, conflict. The expressions are checked by the statement
that uses them. -/
def ofLists (insert conflict expression : List String) : Except ConfigError FieldSet :=
  if hne : insert = [] then .error .emptyInsertFields
  else if hins : insert.any Text.isBlank then .error (.emptyColumnName .insert)
  else if hcon : conflict.any Text.isBlank then .error (.emptyColumnName .conflict)
  else .ok ⟨insert, conflict, expression, hne, by simpa using hins, by simpa using hcon⟩

def insertOnly (insert : List String) : Except ConfigError FieldSet :=
  ofLists insert [] []

end FieldSet
end RowBatch
