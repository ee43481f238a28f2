import RowBatch.Store.Cell
import RowBatch.Store.Schema

/-!
The rows of a table, in the order of their numbers, and what writing a row does to them.
-/

namespace RowBatch
namespace Store

namespace Cell

/-- Whether two cells are equal in a key. Numbers are compared by their worth, and null is equal to
nothing. -/
def agrees : Cell → Cell → Bool
  | .integer a, .integer b => a == b
  | .integer a, .real y => y.isInt a.toInt
  | .real x, .integer b => x.isInt b.toInt
  | .real x, .real y => x.equal y
  | .text a, .text b => a == b
  | .blob a, .blob b => a == b
  | _, _ => false

/-- The integer that a real number is worth, short of both ends of the range. -/
def realNumber? (x : Binary64) : Option Int64 :=
  x.toInt?.bind fun v => if -2 ^ 63 < v ∧ v < 2 ^ 63 - 1 then some (Int64.ofInt v) else none

/-- The number that a cell gives to a row. A text has to be a number and nothing else. -/
def number? : Cell → Option Int64
  | .integer n => some n
  | .real x => realNumber? x
  | .text s =>
    match Numeral.read s.toList with
    | (.integer n, true) => some n
    | (.real x, true) => realNumber? x
    | (_, false) => none
  | .null | .blob _ => none

end Cell

structure Entry where
  number : Int64
  cells : List Cell
deriving DecidableEq, Inhabited

def cellAt (cells : List Cell) (i : Nat) : Cell := cells.getD i .null

def shareKey (key : Key) (a b : List Cell) : Bool :=
  key.all fun i => (cellAt a i).agrees (cellAt b i)

inductive Reference where
  | incoming (column : Nat)
  | existing (column : Nat)
deriving DecidableEq, Inhabited

def Reference.read (incoming existing : List Cell) : Reference → Cell
  | .incoming i => cellAt incoming i
  | .existing i => cellAt existing i

def Operation.eval (read : Reference → Cell) (o : Operation Reference) : Cell :=
  match o.combined with
  | none => read o.left
  | some (operator, right) => Cell.combine operator (read o.left) (read right)

inductive Policy where
  | fail
  | skip
  | update (key : Key) (assignments : List (Assignment Nat Reference))
deriving DecidableEq, Inhabited

structure Table where
  schema : Schema
  entries : List Entry
deriving DecidableEq, Inhabited

namespace Table

def nextNumber (t : Table) : Int64 :=
  match t.entries.getLast? with
  | some e => e.number + 1
  | none => 1

def numbered (t : Table) (cells : List Cell) : Except StoreError Entry :=
  match t.schema.numberColumn with
  | none => .ok ⟨t.nextNumber, cells⟩
  | some i =>
    let number? := if (cellAt cells i).isNull then some t.nextNumber else (cellAt cells i).number?
    match number? with
    | some n => .ok ⟨n, cells.set i (.integer n)⟩
    | none => .error .datatypeMismatch

/-- The first required column that holds null. The column of the numbers never does. -/
def missing? (s : Schema) (cells : List Cell) : Option Column :=
  (s.columns.zipIdx.find? fun (column, i) =>
    column.required && (cellAt cells i).isNull && !s.isNumbers i).map Prod.fst

def checkRequired (s : Schema) (cells : List Cell) : Except StoreError Unit :=
  match missing? s cells with
  | some column => .error (.notNull s.table column.name)
  | none => .ok ()

def conflict? (entries : List Entry) (keys : List Key) (cells : List Cell) : Option (Key × Entry) :=
  keys.findSome? fun key => (entries.find? fun e => shareKey key e.cells cells).map (key, ·)

def place (e : Entry) : List Entry → List Entry
  | [] => [e]
  | other :: rest => if e.number < other.number then e :: other :: rest else other :: place e rest

def store (s : Schema) (entries : List Entry) (e : Entry) : Except StoreError Table :=
  match conflict? entries s.keys e.cells with
  | some (key, _) => .error (.unique s.table (s.names key))
  | none => .ok ⟨s, place e entries⟩

/-- The existing row after some assignments, each of which sees it as it was. The last assignment
to a column counts. -/
def assign (read : Reference → Cell) (assignments : List (Assignment Nat Reference))
    (cells : List Cell) : List Cell :=
  assignments.foldl (fun cells a => cells.set a.column (a.value.eval read)) cells

def renumbered (s : Schema) (number : Int64) (cells : List Cell) : Except StoreError Entry :=
  match s.numberColumn with
  | none => .ok ⟨number, cells⟩
  | some i =>
    match (cellAt cells i).number? with
    | some n => .ok ⟨n, cells.set i (.integer n)⟩
    | none => .error .datatypeMismatch

def change (t : Table) (old : Entry) (incoming : List Cell)
    (assignments : List (Assignment Nat Reference)) : Except StoreError Table := do
  let cells := assign (Reference.read incoming old.cells) assignments old.cells
  let entry ← renumbered t.schema old.number cells
  checkRequired t.schema entry.cells
  store t.schema (t.entries.filter fun e => e.number != old.number) entry

/-- Writes a row, and tells whether a row was added or changed. -/
def write (t : Table) (policy : Policy) (cells : List Cell) : Except StoreError (Table × Bool) := do
  let entry ← t.numbered cells
  checkRequired t.schema entry.cells
  match policy with
  | .fail => return (← store t.schema t.entries entry, true)
  | .skip =>
    if (conflict? t.entries t.schema.keys entry.cells).isSome then return (t, false)
    else return (⟨t.schema, place entry t.entries⟩, true)
  | .update key assignments =>
    match conflict? t.entries [key] entry.cells with
    | some (_, old) => return (← t.change old entry.cells assignments, true)
    | none => return (← store t.schema t.entries entry, true)

/-- Writes rows in order, counting those that were added or changed on top of `count`. -/
def writeAll (t : Table) (policy : Policy) (count : Nat) :
    List (List Cell) → Except StoreError (Table × Nat)
  | [] => .ok (t, count)
  | cells :: rest =>
    match t.write policy cells with
    | .ok (t, wrote) => t.writeAll policy (if wrote then count + 1 else count) rest
    | .error e => .error e

end Table
end Store
end RowBatch
