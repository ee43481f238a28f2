import RowBatch.Writer.Basic

/-!
Runs of a writer: it is configured on the state of an executor and then asked for one operation
after the other. The history of a run keeps every call that the executor received.
-/

namespace RowBatch
namespace Writer

variable {σ η ε : Type}

inductive Operation where
  | queue (row : Row)
  | flush
  | reset
deriving DecidableEq

/-- Performs an operation. Only `queue` has an answer of its own. -/
def perform (e : Executor σ η ε) (s : σ) (w : Writer η) :
    Operation → Outcome (σ × Writer η) ε (Option Bool)
  | .queue row => (queue e s w row).map some
  | .flush => (flush e s w).map fun _ => none
  | .reset => ⟨(s, w.reset), .ok none, []⟩

/-- An operation of a run, with the calls that it made, the earliest first. -/
structure Step (η ε : Type) where
  operation : Operation
  before : Writer η
  calls : List (Call η ε)
  result : Except (BatchError ε) (Option Bool)
  after : Writer η

/-- A run up to some moment, the state of its executor and the writer at that moment. -/
structure History (σ η ε : Type) where
  state : σ
  writer : Writer η
  opening : List (Call η ε)
  steps : List (Step η ε)

namespace History

def advance (e : Executor σ η ε) (h : History σ η ε) (operation : Operation) : History σ η ε :=
  let o := perform e.recorded (h.state, []) h.writer operation
  { h with
    state := o.state.1.1
    writer := o.state.2
    steps := h.steps ++ [⟨operation, h.writer, o.state.1.2.reverse, o.result, o.state.2⟩] }

def calls (h : History σ η ε) : List (Call η ε) := h.opening ++ h.steps.flatMap Step.calls

end History

/-- Configures a writer on a state of the executor, which may be one that an earlier writer left,
and performs operations. There is a history just when the configuration is accepted. -/
def session (e : Executor σ η ε) (s : σ) (batchSize : Nat) (table : String) (fields : FieldSet)
    (variant : Variant) (operations : List Operation) :
    Except (BatchError ε) (History σ η ε) :=
  let o := configure e.recorded (s, []) batchSize table fields variant
  o.result.map fun w => operations.foldl (History.advance e) ⟨o.state.1, w, o.state.2.reverse, []⟩

def users : FieldSet := ⟨["id", "name"], [], [], by decide, by decide, by decide⟩

end Writer
end RowBatch
