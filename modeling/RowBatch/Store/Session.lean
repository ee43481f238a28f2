import RowBatch.Executor
import RowBatch.Store.Database

/-!
A session on a database, which executes the statements of a writer. It remembers the statements that
it prepared last; one that it remembers is not checked again before it is executed.
-/

namespace RowBatch
namespace Store

structure Session where
  database : Database
  /-- The texts of remembered statements, the one used last first. -/
  remembered : List String
deriving Inhabited

/-- A prepared statement. One that is not cached is read when it is executed. -/
structure Prepared where
  text : String
  cached : Bool
deriving DecidableEq, Inhabited

namespace Session

def ofDatabase (d : Database) : Session := ⟨d, []⟩

def capacity : Nat := 16

def remember (s : Session) (text : String) : Session :=
  { s with remembered := (text :: s.remembered.erase text).take capacity }

def maxParameters : Nat := 32766

def read (text : String) : Except StoreError Query :=
  match Query.ofText? text with
  | none => .error .syntaxError
  | some query =>
    if maxParameters < query.parameters then .error .tooManyParameters else .ok query

/-- Refuses any other number of parameters than the needed one. Surplus parameters are not counted
beyond the first. -/
def checkCount (needed : Nat) (parameters : List Value) : Except StoreError Unit :=
  if parameters.length = needed then .ok ()
  else .error (.parameterCount (min parameters.length (needed + 1)) needed)

/-- The error of a check that comes after the statement was prepared. -/
def late : StoreError → StoreError
  | .unknownColumn reference => .lostColumn reference
  | e => e

def check (d : Database) (text : String) : Except StoreError Unit := do
  let _ ← d.compile (← read text)

def runChecked (d : Database) (text : String) (parameters : List Value) :
    Except StoreError (Database × Nat) := do
  let query ← read text
  let run ← d.compile query
  checkCount query.parameters parameters
  run (parameters.map Cell.ofValue)

/-- Executes a remembered statement, which is checked after its parameters were counted. -/
def runRemembered (d : Database) (text : String) (parameters : List Value) :
    Except StoreError (Database × Nat) := do
  let query ← read text
  checkCount query.parameters parameters
  let run ← (d.compile query).mapError late
  run (parameters.map Cell.ofValue)

def settle (s : Session) (result : Except StoreError (Database × Nat)) :
    Session × Except StoreError UInt64 :=
  match result with
  | .ok (d, count) => ({ s with database := d }, .ok (UInt64.ofNat count))
  | .error e => (s, .error e)

def prepare (s : Session) (text : String) : Session × Except StoreError Prepared :=
  if s.remembered.contains text then (s.remember text, .ok ⟨text, true⟩)
  else
    match check s.database text with
    | .ok () => (s.remember text, .ok ⟨text, true⟩)
    | .error e => (s, .error e)

def prepareTransient (s : Session) (text : String) : Session × Except StoreError Prepared :=
  (s, .ok ⟨text, false⟩)

def execute (s : Session) (statement : Prepared) (parameters : List Value) :
    Session × Except StoreError UInt64 :=
  let text := statement.text
  if !statement.cached then s.settle (runChecked s.database text parameters)
  else if s.remembered.contains text then
    (s.remember text).settle (runRemembered s.database text parameters)
  else
    match check s.database text with
    | .ok () => (s.remember text).settle (runChecked s.database text parameters)
    | .error e => (s, .error e)

def executor : Executor Session Prepared StoreError where
  style := .questionMark
  prepare := prepare
  prepareTransient := prepareTransient
  execute := execute

def run (s : Session) (text : String) : Session × Except StoreError Unit :=
  let (s, answer) := s.settle (runChecked s.database text [])
  (s, answer.map fun _ => ())

end Session
end Store
end RowBatch
