import RowBatch.Executor
import RowBatch.Proofs.Writer.Session

/-!
What the answer to a queued row tells about the executions that were made for it. An answer tells
whether the call has written, and an error that it has not, but for batches of one row: there, a row
that waited can be written before the execution of the new one fails.
-/

namespace RowBatch
namespace Writer

variable {σ η ε : Type}

/-- A call for a row that has written and ends with an error. The row that waited filled a batch of
its own and was written by the retry; the new row fills the next batch, whose execution failed. The
new row waits, and the counters count the batch that was written. -/
def Step.FailsAfterRetry (x : Step η ε) (row : Row) : Prop :=
  ∃ count cause, x.before.batchSize = 1 ∧ x.before.pending = 1 ∧
    x.calls = [.execute x.before.statement x.before.parameters (.ok count),
      .execute x.before.statement row (.error cause)] ∧
    x.result = .error (.execution cause) ∧ x.after = (x.before.written count).holding row

/-- What a call for a row can answer, with its calls and the writer that it leaves. -/
inductive Answered (w : Writer η) (row : Row) :
    List (Call η ε) → Except (BatchError ε) (Option Bool) → Writer η → Prop
  | refused : Answered w row [] (.error (.arity w.arity row.length)) w
  | taken : Answered w row [] (.ok (some false)) (w.holding row)
  | written {calls w'} (hsome : calls ≠ []) (hall : ∀ call ∈ calls, call.wrote = true) :
      Answered w row calls (.ok (some true)) w'
  | failed {call cause w'} (hcall : call.wrote = false) :
      Answered w row [call] (.error (.execution cause)) w'
  | failedAfterRetry {count cause} (hsize : w.batchSize = 1) (hone : w.pending = 1) :
      Answered w row [.execute w.statement w.parameters (.ok count),
        .execute w.statement row (.error cause)]
        (.error (.execution cause)) ((w.written count).holding row)

section Paths

variable {e : Executor σ η ε} {s s' : σ} {w w' : Writer η} {row : Row} {calls : List (Call η ε)}

theorem Accepts.answered {result : Except (BatchError ε) Bool}
    (h : Accepts e s w row false calls result s' w') :
    Answered w row calls (result.map some) w' := by
  cases h with
  | waits => exact .taken
  | @fills _ answer _ _ =>
    cases answer with
    | ok count => exact .written (by simp) (by simp [Call.wrote])
    | error cause => exact .failed rfl

/-- Behind a successful retry nothing waits, so the new row fills a batch only if one row does. -/
theorem Accepts.answered_retry {count : UInt64} {result : Except (BatchError ε) Bool}
    (hfull : w.pending = w.batchSize)
    (h : Accepts e s (w.written count) row true calls result s' w') :
    Answered w row (.execute w.statement w.parameters (.ok count) :: calls) (result.map some)
      w' := by
  cases h with
  | waits => exact .written (by simp) (by simp [Call.wrote])
  | @fills _ answer hone _ =>
    cases answer with
    | ok _ => exact .written (by simp) (by simp [Call.wrote])
    | error cause =>
      have hsize : w.batchSize = 1 := by simpa [eq_comm] using hone
      simpa [Except.map] using Answered.failedAfterRetry hsize (hfull.trans hsize)

theorem Performs.answered {result : Except (BatchError ε) (Option Bool)}
    (h : Performs e s w (.queue row) calls result s' w') : Answered w row calls result w' := by
  cases h with
  | mismatched => exact .refused
  | blocked => exact .failed rfl
  | retried _ hfull _ hrow => exact hrow.answered_retry hfull
  | queued _ _ hrow => exact hrow.answered

theorem Accepts.calls_execute {wrote : Bool} {result : Except (BatchError ε) Bool}
    (h : Accepts e s w row wrote calls result s' w') :
    ∀ call ∈ calls, ∃ parameters answer, call = .execute w.statement parameters answer := by
  cases h with
  | waits => simp
  | fills => simp

theorem Performs.calls_execute {result : Except (BatchError ε) (Option Bool)}
    (h : Performs e s w (.queue row) calls result s' w') :
    ∀ call ∈ calls, ∃ parameters answer, call = .execute w.statement parameters answer := by
  cases h with
  | mismatched => simp
  | blocked => simp
  | retried _ _ _ hrow =>
    intro call hcall
    rcases List.mem_cons.mp hcall with rfl | hcall
    · exact ⟨_, _, rfl⟩
    · exact hrow.calls_execute call hcall
  | queued _ _ hrow => exact hrow.calls_execute

theorem holding_ne_self (w : Writer η) (row : Row) : w.holding row ≠ w := by
  intro h
  have hpending : w.pending + 1 = w.pending := congrArg Writer.pending h
  omega

theorem Answered.written_iff {result : Except (BatchError ε) (Option Bool)}
    (h : Answered w row calls result w') :
    result = .ok (some true) ↔ calls ≠ [] ∧ ∀ call ∈ calls, call.wrote = true := by
  cases h with
  | refused => simp
  | taken => simp
  | written hsome hall => exact iff_of_true rfl ⟨hsome, hall⟩
  | failed hcall => simp [hcall]
  | failedAfterRetry => simp [Call.wrote]

theorem Answered.taken_iff {result : Except (BatchError ε) (Option Bool)}
    (h : Answered w row calls result w') :
    result = .ok (some false) ↔ calls = [] ∧ w' = w.holding row := by
  cases h with
  | refused => simp [(holding_ne_self w row).symm]
  | taken => simp
  | written hsome _ => simp [hsome]
  | failed _ => simp
  | failedAfterRetry => simp

theorem Answered.of_error {cause : BatchError ε} (h : Answered w row calls (.error cause) w') :
    (∀ call ∈ calls, call.wrote = false) ∨
      Step.FailsAfterRetry ⟨.queue row, w, calls, .error cause, w'⟩ row := by
  cases h with
  | refused => simp
  | failed hcall => simp [hcall]
  | failedAfterRetry hsize hone => exact .inr ⟨_, _, hsize, hone, rfl, rfl, rfl⟩

end Paths

section Sessions

variable {e : Executor σ η ε} {s : σ} {batchSize : Nat} {table : String} {fields : FieldSet}
  {variant : Variant} {operations : List Operation} {h : History σ η ε}

/-- A row is answered with yes just when something was executed for it and all of it succeeded, and
with no just when nothing was executed and the row waits. An error tells that no execution
succeeded, unless batches have one row and the retry of the one that waited succeeded. -/
theorem queue_answer_tells
    (hrun : session e s batchSize table fields variant operations = .ok h) :
    ∀ x ∈ h.steps, ∀ row, x.operation = .queue row →
      (∀ call ∈ x.calls, ∃ parameters answer,
        call = .execute x.before.statement parameters answer) ∧
      (x.result = .ok (some true) ↔ x.calls ≠ [] ∧ ∀ call ∈ x.calls, call.wrote = true) ∧
      (x.result = .ok (some false) ↔ x.calls = [] ∧ x.after = x.before.holding row) ∧
      ∀ cause, x.result = .error cause →
        (∀ call ∈ x.calls, call.wrote = false) ∨ x.FailsAfterRetry row := by
  intro x hx row hrow
  obtain ⟨s, s', hpath⟩ := session_performs hrun x hx
  obtain ⟨operation, before, calls, result, after⟩ := x
  obtain rfl : operation = .queue row := hrow
  have hanswered := hpath.answered
  refine ⟨hpath.calls_execute, hanswered.written_iff, hanswered.taken_iff, ?_⟩
  rintro cause rfl
  exact hanswered.of_error

end Sessions

/-- Batches of one row: the first fails, is written with the next row, and that row fails. -/
def laterFailure : Except (BatchError String) (History Script String String) :=
  session (Script.executor .numbered) ⟨[], [.error "locked", .ok 1, .error "busy"]⟩ 1 "users" users
    .insertIgnore [.queue [.int 1, .null], .queue [.int 2, .null]]

theorem error_after_write : ∃ h, laterFailure = .ok h ∧ ∃ x ∈ h.steps,
    x.operation = .queue [.int 2, .null] ∧ x.result = .error (.execution "busy") ∧
      ∃ call ∈ x.calls, call.wrote = true := by
  have hrun : laterFailure = .ok _ := rfl
  exact ⟨_, hrun, _, List.mem_cons_of_mem _ List.mem_cons_self, rfl, rfl, _, List.mem_cons_self,
    rfl⟩

/-- A batch that failed is written with the row behind it, and both are answered as they were. -/
def laterSuccess : Except (BatchError String) (History Script String String) :=
  session (Script.executor .numbered) ⟨[], [.error "locked", .ok 2]⟩ 2 "users" users .insertIgnore
    [.queue [.int 1, .null], .queue [.int 2, .null], .queue [.int 3, .null]]

theorem laterSuccess_answers : ∃ h, laterSuccess = .ok h ∧ ∃ x ∈ h.steps,
    x.operation = .queue [.int 3, .null] ∧ x.result = .ok (some true) ∧
      x.calls ≠ [] ∧ ∀ call ∈ x.calls, call.wrote = true := by
  have hrun : laterSuccess = .ok _ := rfl
  obtain ⟨-, hwritten, -⟩ := queue_answer_tells hrun _
    (List.mem_cons_of_mem _ (List.mem_cons_of_mem _ List.mem_cons_self)) _ rfl
  exact ⟨_, hrun, _, List.mem_cons_of_mem _ (List.mem_cons_of_mem _ List.mem_cons_self), rfl, rfl,
    hwritten.mp rfl⟩

end Writer
end RowBatch
