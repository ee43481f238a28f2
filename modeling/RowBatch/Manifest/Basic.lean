import RowBatch.Statement.Basic
import RowBatch.Writer.Basic

/-!
The description of a batch as it is kept in a file, the writer that it configures, and what can be
wrong with its text.
-/

namespace RowBatch

structure Manifest where
  table : String
  operationsPerStatement : UInt64
  statement : StatementKind
  insertFields : List String
  conflictFields : List String
  expressionFields : List String
  returnFields : List String
deriving DecidableEq, Inhabited

namespace Manifest

def fieldSet (m : Manifest) : Except ConfigError FieldSet :=
  FieldSet.ofLists m.insertFields m.conflictFields m.expressionFields

/-- The kind of statement with its returned columns, which only one kind takes. -/
def variant (m : Manifest) : Except ConfigError Variant :=
  if m.statement ≠ .insertDoNothing ∧ m.returnFields ≠ [] then
    .error (.returningNotSupported m.statement)
  else
    .ok (match m.statement with
      | .insertDoNothing => .insertDoNothing m.returnFields
      | .insertIgnore => .insertIgnore
      | .upsertExcluded => .upsertExcluded
      | .upsertValues => .upsertValues)

def writer {σ η ε : Type} (e : Executor σ η ε) (s : σ) (m : Manifest) :
    Writer.Outcome σ ε (Writer η) :=
  match m.fieldSet with
  | .error cause => ⟨s, .error (.configuration cause), []⟩
  | .ok fields =>
    match m.variant with
    | .error cause => ⟨s, .error (.configuration cause), []⟩
    | .ok variant =>
      Writer.configure e s m.operationsPerStatement.toNat m.table fields variant

inductive Entry where
  | table
  | operationsPerStatement
  | statement
  | insertFields
  | conflictFields
  | expressionFields
  | returnFields
deriving DecidableEq, Inhabited

namespace Entry

def name : Entry → String
  | .table => "table"
  | .operationsPerStatement => "operations_per_statement"
  | .statement => "statement"
  | .insertFields => "insert_fields"
  | .conflictFields => "conflict_fields"
  | .expressionFields => "expression_fields"
  | .returnFields => "return_fields"

def all : List Entry :=
  [.table, .operationsPerStatement, .statement, .insertFields, .conflictFields, .expressionFields,
    .returnFields]

def ofName? (name : String) : Option Entry := all.find? fun e => e.name == name

@[simp] theorem ofName?_name (e : Entry) : ofName? e.name = some e := by
  cases e <;> decide

end Entry

def statementName : StatementKind → String
  | .insertDoNothing => "insert_do_nothing"
  | .insertIgnore => "insert_ignore"
  | .upsertExcluded => "upsert_excluded"
  | .upsertValues => "upsert_values"

def statements : List StatementKind :=
  [.insertDoNothing, .insertIgnore, .upsertExcluded, .upsertValues]

def statement? (name : String) : Option StatementKind :=
  statements.find? fun kind => statementName kind == name

inductive Fault where
  | malformed
  | missingEntry (entry : Entry)
  | duplicateEntry (entry : Entry)
  /-- A statement of no kind; its key is told when the kind is not given by a tag. -/
  | unknownStatement (key : Option String) (name : String)
deriving DecidableEq

namespace Fault

def quoted (name : String) : String := "`" ++ name ++ "`"

/-- The message of a fault, but for malformed texts, which are described in many ways. -/
def message? : Fault → Option String
  | .malformed => none
  | .missingEntry entry => some ("missing field " ++ quoted entry.name)
  | .duplicateEntry entry => some ("duplicate field " ++ quoted entry.name)
  | .unknownStatement key name =>
    some ((key.map (· ++ ": ")).getD "" ++ "unknown variant " ++ quoted name ++
      ", expected one of " ++
      String.intercalate ", " (statements.map fun kind => quoted (statementName kind)))

end Fault
end Manifest
end RowBatch
