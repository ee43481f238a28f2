import RowBatch.Store.Table

/-!
Tables by their names, and what the statements do to them. A statement that fails changes nothing.
-/

namespace RowBatch
namespace Store

abbrev Database := List Table

structure Plan where
  /-- The position of the column that takes each value of a row. -/
  columns : List Nat
  policy : Policy
deriving DecidableEq, Inhabited

def mainSchema : String := "main"

def isPathOf (table : String) : Path → Bool
  | [name] => sameName name table
  | [schema, name] => sameName schema mainSchema && sameName name table
  | _ => false

def incomingName : String := "EXCLUDED"

namespace Schema

def reference (s : Schema) (path : Path) : Except StoreError Reference :=
  let row := path.dropLast
  let isIncoming := match row with
    | [name] => sameName name incomingName
    | _ => false
  match s.position? (path.getLastD "") with
  | none => .error (.unknownColumn (pathText path))
  | some i =>
    if isIncoming then .ok (.incoming i)
    else if isPathOf s.table row then .ok (.existing i)
    else .error (.unknownColumn (pathText path))

def operation (s : Schema) (o : Operation Path) : Except StoreError (Operation Reference) := do
  let left ← s.reference o.left
  match o.combined with
  | none => return ⟨left, none⟩
  | some (operator, right) => return ⟨left, some (operator, ← s.reference right)⟩

def assignments (s : Schema) :
    List (Assignment String Path) → Except StoreError (List (Assignment Nat Reference))
  | [] => .ok []
  | a :: rest => do
    let value ← s.operation a.value
    match s.position? a.column with
    | none => .error (.unknownColumn a.column)
    | some i => return ⟨i, value⟩ :: (← s.assignments rest)

def inserted (s : Schema) (path : Path) : List String → Except StoreError (List Nat)
  | [] => .ok []
  | column :: rest =>
    match s.position? column with
    | none => .error (.noSuchTableColumn (pathText path) column)
    | some i => (s.inserted path rest).map (i :: ·)

/-- What an insertion does about conflicts, given the inserted columns. New numbers are in nobody's
way, so that the assignments for such a conflict are not even looked at. -/
def policy (s : Schema) (inserted : List Nat) : OnConflict → Except StoreError Policy
  | .fail => .ok .fail
  | .skip => .ok .skip
  | .update target changes => do
    let columns ← s.positions target
    match s.key? columns with
    | none => .error .noSuchKey
    | some key =>
      if key.any fun c => s.isNumbers c && !inserted.contains c then return .fail
      else return .update key (← s.assignments changes)

def plan (s : Schema) (i : Insertion) : Except StoreError Plan := do
  let columns ← s.inserted i.table i.columns
  let policy ← s.policy columns i.onConflict
  let _ ← s.positions i.returning
  return ⟨columns, policy⟩

/-- The value of a column of a row. When several values are meant for it the first counts, but for
the numbers the last. -/
def pick (s : Schema) (columns : List Nat) (values : List Cell) (i : Nat) : Cell :=
  let meant := ((columns.zip values).filter fun p => p.1 == i).map Prod.snd
  (if s.isNumbers i then meant.getLast? else meant.head?).getD .null

def spread (s : Schema) (columns : List Nat) (values : List Cell) : List Cell :=
  (List.range s.columns.length).map (s.pick columns values)

end Schema

def Cell.bound : Cell → Cell
  | .real x => .ofReal x
  | cell => cell

def slices {α : Type} (width : Nat) : Nat → List α → List (List α)
  | 0, _ => []
  | rows + 1, l => l.take width :: slices width rows (l.drop width)

namespace Database

def table (d : Database) (path : Path) : Except StoreError Table :=
  match d.find? fun t => isPathOf t.schema.table path with
  | some t => .ok t
  | none => .error (.noSuchTable (pathText path))

def replace (d : Database) (t : Table) : Database :=
  d.map fun other => if sameName other.schema.table t.schema.table then t else other

def insert (d : Database) (t : Table) (plan : Plan) (rows : List (List Cell)) :
    Except StoreError (Database × Nat) :=
  (t.writeAll plan.policy 0 (rows.map (t.schema.spread plan.columns))).map
    fun (t, count) => (d.replace t, count)

def create (d : Database) (path : Path) (definitions : List Definition) :
    Except StoreError Database :=
  let name := path.getLastD ""
  if !isPathOf name path then .error (.noSuchSchema (pathText path.dropLast))
  else if d.any fun t => isPathOf t.schema.table path then .error (.tableExists name)
  else (Schema.ofDefinitions name definitions).map fun s => ⟨s, []⟩ :: d

def drop (d : Database) (path : Path) : Except StoreError Database :=
  (d.table path).map fun _ => d.filter fun t => !isPathOf t.schema.table path

/-- Checks a query against the tables that there are. What it gives takes the parameters, and counts
the affected rows. -/
def compile (d : Database) :
    Query → Except StoreError (List Cell → Except StoreError (Database × Nat))
  | .insert i => do
    let t ← d.table i.table
    let plan ← t.schema.plan i
    return fun parameters =>
      d.insert t plan (slices i.columns.length i.rows (parameters.map Cell.bound))
  | .create path definitions => do
    let created ← d.create path definitions
    return fun _ => .ok (created, 0)
  | .drop path => do
    let rest ← d.drop path
    return fun _ => .ok (rest, 0)

end Database
end Store
end RowBatch
