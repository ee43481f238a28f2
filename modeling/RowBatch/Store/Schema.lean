import RowBatch.Store.Query

/-!
The columns and keys of a table, and why the store does not execute a statement. A column may hold
the numbers of the rows; no two rows share the cells of a key.
-/

namespace RowBatch

inductive StoreError where
  | syntaxError
  | tooManyParameters
  | tableExists (table : String)
  | noSuchSchema (name : String)
  | noSuchTable (table : String)
  | noSuchTableColumn (table column : String)
  /-- A reference to a column that the table does not have. -/
  | unknownColumn (reference : String)
  /-- A reference of a statement that was prepared before the table had lost the column. -/
  | lostColumn (reference : String)
  | duplicateColumn (column : String)
  | severalPrimaryKeys (table : String)
  /-- The columns of a conflict are no key of the table. -/
  | noSuchKey
  | notNull (table column : String)
  | unique (table : String) (columns : List String)
  | datatypeMismatch
  | parameterCount (given needed : Nat)
deriving DecidableEq

namespace StoreError

/-- What is wrong, unless the place of the mistake in the statement is the better answer. -/
def reason? : StoreError → Option String
  | .syntaxError | .tooManyParameters | .tableExists _ | .noSuchSchema _ | .unknownColumn _ => none
  | .noSuchTable table => some ("no such table: " ++ table)
  | .noSuchTableColumn table column =>
    some ("table " ++ table ++ " has no column named " ++ column)
  | .lostColumn reference => some ("no such column: " ++ reference)
  | .duplicateColumn column => some ("duplicate column name: " ++ column)
  | .severalPrimaryKeys table =>
    some ("table \x22" ++ table ++ "\x22 has more than one primary key")
  | .noSuchKey =>
    some "ON CONFLICT clause does not match any PRIMARY KEY or UNIQUE constraint"
  | .notNull table column => some ("NOT NULL constraint failed: " ++ table ++ "." ++ column)
  | .unique table columns =>
    some ("UNIQUE constraint failed: " ++
      String.intercalate ", " (columns.map fun column => table ++ "." ++ column))
  | .datatypeMismatch => some "datatype mismatch"
  | .parameterCount given needed =>
    some ("Wrong number of parameters passed to query. Got " ++ Nat.repr given ++ ", needed " ++
      Nat.repr needed)

def message? (e : StoreError) : Option String := e.reason?.map ("SQLite error: " ++ ·)

end StoreError

namespace Store

def sameName (a b : String) : Bool := a.toLower == b.toLower

structure Column where
  name : String
  /-- Whether it holds no null. -/
  required : Bool
deriving DecidableEq, Inhabited

abbrev Key := List Nat

structure Schema where
  table : String
  columns : List Column
  /-- The column that holds the number of a row. -/
  numberColumn : Option Nat
  hasPrimaryKey : Bool
  /-- The declared keys, the latest first. -/
  declaredKeys : List Key
deriving DecidableEq, Inhabited

namespace Schema

def position? (s : Schema) (column : String) : Option Nat :=
  s.columns.findIdx? fun c => sameName column c.name

def keys (s : Schema) : List Key := (s.numberColumn.toList.map fun c => [c]) ++ s.declaredKeys

def isNumbers (s : Schema) (column : Nat) : Bool := s.numberColumn == some column

/-- The key of exactly these columns, in any order. The numbers are a key by themselves, and no
other key that holds them is found. -/
def key? (s : Schema) (columns : List Nat) : Option Key :=
  s.keys.find? fun key =>
    key.length == columns.length && key.all columns.contains &&
      (key.length == 1 || !key.any s.isNumbers)

def names (s : Schema) (positions : List Nat) : List String :=
  positions.map fun i => (s.columns[i]?.map Column.name).getD ""

def positions (s : Schema) : List String → Except StoreError (List Nat)
  | [] => .ok []
  | column :: rest =>
    match s.position? column with
    | none => .error (.unknownColumn column)
    | some i => (s.positions rest).map (i :: ·)

def withKey (s : Schema) (key : Key) : Schema :=
  if s.declaredKeys.contains key then s else { s with declaredKeys := key :: s.declaredKeys }

def empty (table : String) : Schema := ⟨table, [], none, false, []⟩

def withColumn (s : Schema) (name : String) (isInteger isPrimary required : Bool) :
    Except StoreError Schema :=
  if (s.position? name).isSome then .error (.duplicateColumn name)
  else
    let i := s.columns.length
    let s := { s with columns := s.columns ++ [⟨name, required⟩] }
    if !isPrimary then .ok s
    else if s.hasPrimaryKey then .error (.severalPrimaryKeys s.table)
    else if isInteger then .ok { s with numberColumn := some i, hasPrimaryKey := true }
    else .ok { s.withKey [i] with hasPrimaryKey := true }

def define (s : Schema) : Definition → Except StoreError Schema
  | .column name isInteger isPrimary required => s.withColumn name isInteger isPrimary required
  | .primaryKey columns =>
    if s.hasPrimaryKey then .error (.severalPrimaryKeys s.table)
    else (s.positions columns).map fun key => { s.withKey key with hasPrimaryKey := true }
  | .unique columns => (s.positions columns).map s.withKey

def defineAll (s : Schema) : List Definition → Except StoreError Schema
  | [] => .ok s
  | definition :: rest => (s.define definition).bind fun s => s.defineAll rest

def ofDefinitions (table : String) (definitions : List Definition) : Except StoreError Schema :=
  (empty table).defineAll definitions

end Schema
end Store
end RowBatch
