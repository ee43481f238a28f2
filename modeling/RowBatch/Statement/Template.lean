import RowBatch.Fields
import RowBatch.Statement.Basic
import RowBatch.Update.Rule

/-!
A statement that is configured but for its number of rows, and its text for every number.
-/

namespace RowBatch

/-- A kind of statement with the columns that it returns, which only one kind can. -/
inductive Variant where
  | insertDoNothing (returning : List String)
  | insertIgnore
  | upsertExcluded
  | upsertValues
deriving DecidableEq, Inhabited

namespace Variant

def kind : Variant → StatementKind
  | .insertDoNothing _ => .insertDoNothing
  | .insertIgnore => .insertIgnore
  | .upsertExcluded => .upsertExcluded
  | .upsertValues => .upsertValues

def returning? : Variant → Option (List String)
  | .insertDoNothing returning => some returning
  | _ => none

end Variant

structure Template where
  table : String
  fields : FieldSet
  variant : Variant
  style : PlaceholderStyle
  rules : List UpdateRule

namespace Template

/-- The head that every kind shares. -/
def insertBody (table : String) (columns : List String) (ignore : Bool) (values : String) :
    String :=
  "INSERT " ++ (if ignore then "IGNORE " else "") ++ "INTO " ++ table ++ " (" ++
    String.intercalate ", " columns ++ ") VALUES " ++ values

def upsertRules (kind : StatementKind) (f : FieldSet) : Except ConfigError (List UpdateRule) :=
  if f.conflict = [] then .error (.missingConflictFields kind)
  else if f.expression = [] then .error (.missingExpressionFields kind)
  else UpdateRule.parseAll f.expression

/-- The rules of a configured statement. Only upserts have any. -/
def rulesFor (variant : Variant) (f : FieldSet) : Except ConfigError (List UpdateRule) :=
  match variant with
  | .insertDoNothing returning =>
    if f.expression = [] then (checkNamed .returning returning).map fun _ => []
    else .error (.expressionsNotSupported .insertDoNothing)
  | .insertIgnore =>
    if f.expression = [] then .ok [] else .error (.expressionsNotSupported .insertIgnore)
  | .upsertExcluded => upsertRules .upsertExcluded f
  | .upsertValues => upsertRules .upsertValues f

def configure (table : String) (fields : FieldSet) (variant : Variant) (style : PlaceholderStyle) :
    Except ConfigError Template :=
  if Text.isBlank table then .error .emptyTableName
  else (rulesFor variant fields).map fun rules => ⟨table, fields, variant, style, rules⟩

def arity (t : Template) : Nat := t.fields.arity

def clauses (t : Template) : List String :=
  t.rules.map (UpdateRule.clause t.variant.kind.dialect t.table)

/-- What the statement does about a row that is already there. -/
def conflictClause (t : Template) : String :=
  match t.variant with
  | .insertDoNothing [] => " ON CONFLICT DO NOTHING"
  | .insertDoNothing returning =>
    " ON CONFLICT DO NOTHING RETURNING " ++ String.intercalate ", " returning
  | .insertIgnore => ""
  | .upsertExcluded =>
    " ON CONFLICT (" ++ String.intercalate ", " t.fields.conflict ++ ") DO UPDATE SET " ++
      String.intercalate ", " t.clauses
  | .upsertValues => " ON DUPLICATE KEY UPDATE " ++ String.intercalate ", " t.clauses

/-- The text of the statement that writes `rows` rows. -/
def text (t : Template) (rows : Nat) : String :=
  insertBody t.table t.fields.insert (t.variant = .insertIgnore)
    (t.style.valuesClause t.arity rows) ++ t.conflictClause

end Template
end RowBatch
