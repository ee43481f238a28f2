import RowBatch.Executor
import RowBatch.Log.Record
import RowBatch.Statement.Basic
import RowBatch.Statement.Template

/-!
The batch writer. It collects rows and executes one statement for every full batch; `flush` writes
what is left with a statement of that many rows. Rows leave the buffer only when the statement that
carries them has succeeded.
-/

namespace RowBatch
namespace Writer

inductive Event where
  | preparing (rows : Nat) (text : String)
  | configured (kind : StatementKind) (table : String) (rows : Nat)
  | wroteBatch (rows : Nat) (table : String) (affected : UInt64)
  | flushed (rows : Nat) (table : String) (affected : UInt64)
deriving DecidableEq

namespace Event

def level : Event → Log.Level
  | .preparing _ _ => .trace
  | .configured _ _ _ | .wroteBatch _ _ _ | .flushed _ _ _ => .debug

def message : Event → String
  | .preparing rows text => "Preparing " ++ Nat.repr rows ++ " row statement: " ++ text
  | .configured kind table rows =>
    "Configured " ++ kind.name ++ " batch writer for " ++ table ++ " with " ++ Nat.repr rows ++
      " rows per statement"
  | .wroteBatch rows table affected =>
    "Wrote batch of " ++ Nat.repr rows ++ " rows into " ++ table ++ " (" ++
      Nat.repr affected.toNat ++ " affected)"
  | .flushed rows table affected =>
    "Flushed " ++ Nat.repr rows ++ " rows into " ++ table ++ " (" ++ Nat.repr affected.toNat ++
      " affected)"

def record (e : Event) : Log.Record := ⟨e.level, .writer, e.message⟩

end Event
end Writer

inductive BatchError (ε : Type) where
  | configuration (cause : ConfigError)
  | arity (expected actual : Nat)
  | execution (cause : ε)

namespace BatchError

def message {ε : Type} (text : ε → String) : BatchError ε → String
  | .configuration cause => "Invalid batch configuration: " ++ cause.message
  | .arity expected actual =>
    "The number of values (" ++ Nat.repr actual ++ ") does not match the insert field count (" ++
      Nat.repr expected ++ ")"
  | .execution cause => "Statement execution failed: " ++ text cause

end BatchError

/-- What is fixed when a writer is configured, with a prepared statement `η` for a full batch. -/
structure Setup (η : Type) where
  template : Template
  batchSize : Nat
  statement : η
  /-- The text that `statement` was prepared from. -/
  statementText : String

def Setup.arity {η : Type} (u : Setup η) : Nat := u.template.arity

structure Writer (η : Type) extends Setup η where
  /-- The values of the rows that wait to be written, one row after the other. -/
  buffer : Array Value
  pending : Nat
  /-- The number of rows accepted since the last reset. A caller is told it in 64 bits. -/
  total : Nat
  /-- The sum of the counts that executed statements reported since the last reset. -/
  affected : UInt64

namespace Writer

/-- What an operation leaves behind, answers and reports. -/
structure Outcome (σ ε α : Type) where
  state : σ
  result : Except (BatchError ε) α
  events : List Event

namespace Outcome

variable {σ ε α β : Type}

def map (f : α → β) (o : Outcome σ ε α) : Outcome σ ε β :=
  ⟨o.state, o.result.map f, o.events⟩

def after (events : List Event) (o : Outcome σ ε α) : Outcome σ ε α :=
  { o with events := events ++ o.events }

end Outcome

variable {σ η ε : Type}

/-- The number of accepted rows that no longer wait. -/
def flushed (w : Writer η) : Nat := w.total - w.pending

/-- The total as a caller is told it. It is exact below `2 ^ 64`. -/
def reportedTotal (w : Writer η) : UInt64 := .ofNat w.total

def reportedFlushed (w : Writer η) : UInt64 := w.reportedTotal - .ofNat w.pending

theorem toNat_reportedTotal {w : Writer η} (h : w.total < UInt64.size) :
    w.reportedTotal.toNat = w.total :=
  UInt64.toNat_ofNat_of_lt' h

theorem toNat_reportedFlushed {w : Writer η} (h : w.total < UInt64.size)
    (hle : w.pending ≤ w.total) : w.reportedFlushed.toNat = w.flushed := by
  have hpending : (UInt64.ofNat w.pending).toNat = w.pending :=
    UInt64.toNat_ofNat_of_lt' (Nat.lt_of_le_of_lt hle h)
  have hle' : UInt64.ofNat w.pending ≤ w.reportedTotal := by
    rwa [UInt64.le_iff_toNat_le, hpending, toNat_reportedTotal h]
  rw [reportedFlushed, UInt64.toNat_sub_of_le _ _ hle', hpending, toNat_reportedTotal h, flushed]

/-- What the statement that writes the waiting rows is executed with. -/
def parameters (w : Writer η) : List Value := w.buffer.toList

def fresh (u : Setup η) : Writer η := { u with buffer := #[], pending := 0, total := 0, affected := 0 }

@[simp] theorem fresh_toSetup (u : Setup η) : (fresh u).toSetup = u := rfl
@[simp] theorem fresh_parameters (u : Setup η) : (fresh u).parameters = [] := rfl
@[simp] theorem fresh_pending (u : Setup η) : (fresh u).pending = 0 := rfl
@[simp] theorem fresh_total (u : Setup η) : (fresh u).total = 0 := rfl
@[simp] theorem fresh_affected (u : Setup η) : (fresh u).affected = 0 := rfl

/-- Checks the configuration, and prepares the statement for a full batch. -/
def configure (e : Executor σ η ε) (s : σ) (batchSize : Nat) (table : String) (fields : FieldSet)
    (variant : Variant) : Outcome σ ε (Writer η) :=
  if batchSize = 0 then ⟨s, .error (.configuration .invalidBatchSize), []⟩
  else
    match Template.configure table fields variant e.style with
    | .error cause => ⟨s, .error (.configuration cause), []⟩
    | .ok template =>
      let text := template.text batchSize
      match e.prepare s text with
      | (s, .error cause) => ⟨s, .error (.execution cause), [.preparing batchSize text]⟩
      | (s, .ok statement) =>
        ⟨s, .ok (fresh ⟨template, batchSize, statement, text⟩),
          [.preparing batchSize text, .configured template.variant.kind table batchSize]⟩

section Updates

variable (w : Writer η)

def cleared : Writer η := { w with buffer := #[], pending := 0 }

def written (count : UInt64) : Writer η := { w.cleared with affected := w.affected + count }

@[simp] theorem written_toSetup (count : UInt64) : (w.written count).toSetup = w.toSetup := rfl
@[simp] theorem written_parameters (count : UInt64) : (w.written count).parameters = [] := rfl
@[simp] theorem written_pending (count : UInt64) : (w.written count).pending = 0 := rfl
@[simp] theorem written_total (count : UInt64) : (w.written count).total = w.total := rfl
@[simp] theorem written_affected (count : UInt64) :
    (w.written count).affected = w.affected + count := rfl

def holding (row : Row) : Writer η :=
  { w with buffer := w.buffer ++ row, pending := w.pending + 1, total := w.total + 1 }

@[simp] theorem holding_toSetup (row : Row) : (w.holding row).toSetup = w.toSetup := rfl
@[simp] theorem holding_parameters (row : Row) :
    (w.holding row).parameters = w.parameters ++ row := by
  simp [parameters, holding]
@[simp] theorem holding_pending (row : Row) : (w.holding row).pending = w.pending + 1 := rfl
@[simp] theorem holding_total (row : Row) : (w.holding row).total = w.total + 1 := rfl
@[simp] theorem holding_reportedTotal (row : Row) :
    (w.holding row).reportedTotal = w.reportedTotal + 1 := by
  simp [reportedTotal]
@[simp] theorem holding_affected (row : Row) : (w.holding row).affected = w.affected := rfl

end Updates

def executeBatch (e : Executor σ η ε) (s : σ) (w : Writer η) : Outcome (σ × Writer η) ε Unit :=
  match e.execute s w.statement w.parameters with
  | (s, .error cause) => ⟨(s, w), .error (.execution cause), []⟩
  | (s, .ok count) =>
    ⟨(s, w.written count), .ok (), [.wroteBatch w.batchSize w.template.table count]⟩

/-- Takes a row into the buffer, and writes the batch when it is full. The answer is whether a batch
was written, which `wrote` says of what came before. -/
def accept (e : Executor σ η ε) (s : σ) (w : Writer η) (row : Row) (wrote : Bool) :
    Outcome (σ × Writer η) ε Bool :=
  let w := w.holding row
  if w.pending = w.batchSize then (executeBatch e s w).map fun _ => true
  else ⟨(s, w), .ok wrote, []⟩

/-- Takes a row. A full batch that could not be written before is tried again first, and the row is
taken only when that succeeds. -/
def queue (e : Executor σ η ε) (s : σ) (w : Writer η) (row : Row) :
    Outcome (σ × Writer η) ε Bool :=
  if row.length ≠ w.arity then ⟨(s, w), .error (.arity w.arity row.length), []⟩
  else if w.pending = w.batchSize then
    let retry := executeBatch e s w
    match retry.result with
    | .error cause => ⟨retry.state, .error cause, retry.events⟩
    | .ok () => (accept e retry.state.1 retry.state.2 row true).after retry.events
  else accept e s w row false

/-- Writes a batch that is not full with a statement of its own. -/
def executeRest (e : Executor σ η ε) (s : σ) (w : Writer η) : Outcome (σ × Writer η) ε Unit :=
  let text := w.template.text w.pending
  let preparing : Event := .preparing w.pending text
  match e.prepareTransient s text with
  | (s, .error cause) => ⟨(s, w), .error (.execution cause), [preparing]⟩
  | (s, .ok statement) =>
    match e.execute s statement w.parameters with
    | (s, .error cause) => ⟨(s, w), .error (.execution cause), [preparing]⟩
    | (s, .ok count) =>
      ⟨(s, w.written count), .ok (), [preparing, .flushed w.pending w.template.table count]⟩

/-- Writes every waiting row. -/
def flush (e : Executor σ η ε) (s : σ) (w : Writer η) : Outcome (σ × Writer η) ε Unit :=
  if w.pending = 0 then ⟨(s, w), .ok (), []⟩
  else if w.pending = w.batchSize then executeBatch e s w
  else executeRest e s w

/-- Drops the waiting rows and starts counting anew; the prepared statement stays. -/
def reset (w : Writer η) : Writer η :=
  { w.cleared with total := 0, affected := 0 }

@[simp] theorem reset_toSetup (w : Writer η) : w.reset.toSetup = w.toSetup := rfl
@[simp] theorem reset_parameters (w : Writer η) : w.reset.parameters = [] := rfl
@[simp] theorem reset_pending (w : Writer η) : w.reset.pending = 0 := rfl
@[simp] theorem reset_total (w : Writer η) : w.reset.total = 0 := rfl
@[simp] theorem reset_affected (w : Writer η) : w.reset.affected = 0 := rfl

end Writer
end RowBatch
