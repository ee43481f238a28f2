import RowBatch.Executor
import RowBatch.Proofs.Writer.Session

/-!
What an operation leaves behind when it fails. A row of the wrong length and a failed flush change
nothing; a row is refused when the retry of an older batch fails, and kept when it was itself part of
the batch that failed.
-/

namespace RowBatch

variable {σ η ε : Type}

namespace Call

def failure? : Call η ε → Option ε
  | .prepare _ (.error cause) => some cause
  | .prepareTransient _ (.error cause) => some cause
  | .execute _ _ (.error cause) => some cause
  | _ => none

/-- The last of the calls was answered with an error, and those before it were not. -/
def EndIn (calls : List (Call η ε)) (cause : ε) : Prop :=
  ∃ earlier call, calls = earlier ++ [call] ∧ (∀ c ∈ earlier, c.failure? = none) ∧
    call.failure? = some cause

theorem endIn_singleton {call : Call η ε} {cause : ε} (h : call.failure? = some cause) :
    EndIn [call] cause :=
  ⟨[], call, rfl, by simp, h⟩

theorem endIn_pair {first call : Call η ε} {cause : ε} (hfirst : first.failure? = none)
    (h : call.failure? = some cause) : EndIn [first, call] cause :=
  ⟨[first], call, rfl, by simpa using hfirst, h⟩

end Call

namespace Writer

/-- The retry of a full batch failed. The row is not taken, and nothing has changed. -/
structure Step.RefusesRow (x : Step η ε) (cause : ε) : Prop where
  full : x.before.pending = x.before.batchSize
  calls_eq : x.calls = [.execute x.before.statement x.before.parameters (.error cause)]
  accepted_eq : x.accepted? = none
  after_eq : x.after = x.before

/-- The execution of the batch that a row has filled failed. The row is taken, and waits in the full
batch behind the rows that waited before the call; when a retry has written those, it waits alone. -/
structure Step.KeepsRow (x : Step η ε) (row : Row) (cause : ε) : Prop where
  accepted_eq : x.accepted? = some row
  pending_eq : x.after.pending = x.before.batchSize
  total_eq : x.after.total = x.before.total + 1
  reportedTotal_eq : x.after.reportedTotal = x.before.reportedTotal + 1
  joined : x.before.pending ≠ x.before.batchSize →
    x.calls = [.execute x.before.statement (x.before.parameters ++ row) (.error cause)] ∧
      x.after.parameters = x.before.parameters ++ row ∧ x.after.affected = x.before.affected
  retried : x.before.pending = x.before.batchSize → ∃ count,
    x.calls = [.execute x.before.statement x.before.parameters (.ok count),
      .execute x.before.statement row (.error cause)] ∧
      x.after.parameters = row ∧ x.after.affected = x.before.affected + count ∧
      x.before.batchSize = 1

section Answers

variable {α : Type} {answer : Except ε UInt64} {cause : ε} {error : BatchError ε} {f : Unit → α}

theorem eq_of_heard (h : .error error = (heard answer).map f) :
    ∃ cause, answer = .error cause ∧ error = .execution cause := by
  cases answer with
  | ok count => exact nomatch h
  | error cause => exact ⟨cause, rfl, Except.error.inj h⟩

theorem heard_of_failure {statement : η} {parameters : List Value}
    (h : (Call.execute statement parameters answer).failure? = some cause) :
    heard answer = .error (.execution cause) := by
  cases answer with
  | ok count => exact nomatch h
  | error other =>
    obtain rfl := Option.some.inj h
    rfl

end Answers

section Paths

variable {e : Executor σ η ε} {s s' : σ} {w w' : Writer η} {operation : Operation}
  {row : Row} {calls : List (Call η ε)} {error : BatchError ε}

theorem Accepts.failed {wrote : Bool} {result : Except (BatchError ε) Bool}
    (h : Accepts e s w row wrote calls result s' w') (herror : .error error = result) :
    ∃ cause, error = .execution cause ∧
      calls = [.execute w.statement (w.parameters ++ row) (.error cause)] ∧
      w.pending + 1 = w.batchSize ∧ w' = w.holding row := by
  cases h with
  | waits => exact nomatch herror
  | fills hfills _ =>
    obtain ⟨cause, rfl, rfl⟩ := eq_of_heard herror
    exact ⟨cause, rfl, by simp, hfills, rfl⟩

theorem Performs.row_failed (h : Performs e s w (.queue row) calls (.error error) s' w')
    (hlen : row.length = w.arity) : ∃ cause, error = .execution cause ∧ Call.EndIn calls cause ∧
      (Step.RefusesRow ⟨.queue row, w, calls, .error error, w'⟩ cause ∨
        Step.KeepsRow ⟨.queue row, w, calls, .error error, w'⟩ row cause) := by
  generalize hresult : (.error error : Except (BatchError ε) (Option Bool)) = result at h
  cases h with
  | mismatched hne => exact absurd hlen hne
  | @blocked _ _ cause _ hfull _ =>
    obtain rfl := Except.error.inj hresult
    refine ⟨cause, rfl, Call.endIn_singleton rfl, .inl ⟨hfull, rfl, ?_, rfl⟩⟩
    simp [Step.accepted?, hfull, Call.wrote]
  | @retried _ _ count _ result _ _ _ hfull _ hrow =>
    cases result with
    | ok _ => cases hresult
    | error other =>
      obtain rfl := Except.error.inj hresult
      obtain ⟨cause, rfl, rfl, hone, rfl⟩ := hrow.failed rfl
      -- Nothing waits behind the retry, so the row has filled a batch of one.
      have hsize : w.batchSize = 1 := by simpa [eq_comm] using hone
      refine ⟨cause, rfl, Call.endIn_pair rfl rfl, .inr ⟨?_, hone, rfl, ?_, ?_, ?_⟩⟩
      · simp [Step.accepted?, hlen, Call.wrote]
      · exact holding_reportedTotal _ row
      · exact fun hroom => absurd hfull hroom
      · exact fun _ => ⟨count, by simp, by simp, rfl, hsize⟩
  | @queued _ _ result _ _ _ hroom hrow =>
    cases result with
    | ok _ => cases hresult
    | error other =>
      obtain rfl := Except.error.inj hresult
      obtain ⟨cause, rfl, rfl, hfills, rfl⟩ := hrow.failed rfl
      refine ⟨cause, rfl, Call.endIn_singleton rfl, .inr ⟨?_, hfills, rfl, ?_, ?_, ?_⟩⟩
      · simp [Step.accepted?, hlen, hroom]
      · exact holding_reportedTotal _ row
      · exact fun _ => ⟨rfl, by simp, rfl⟩
      · exact fun hfull => absurd hfull hroom

theorem Performs.flush_failed (h : Performs e s w .flush calls (.error error) s' w') :
    ∃ cause, error = .execution cause ∧ Call.EndIn calls cause ∧ w' = w := by
  generalize hresult : (.error error : Except (BatchError ε) (Option Bool)) = result at h
  cases h with
  | idle => exact nomatch hresult
  | flushedBatch =>
    obtain ⟨cause, rfl, rfl⟩ := eq_of_heard hresult
    exact ⟨cause, rfl, Call.endIn_singleton rfl, rfl⟩
  | @refused _ cause =>
    exact ⟨cause, Except.error.inj hresult, Call.endIn_singleton rfl, rfl⟩
  | flushedRest =>
    obtain ⟨cause, rfl, rfl⟩ := eq_of_heard hresult
    exact ⟨cause, rfl, Call.endIn_pair rfl rfl, rfl⟩

theorem Accepts.error_of_failure {wrote : Bool} {result : Except (BatchError ε) Bool}
    (h : Accepts e s w row wrote calls result s' w') {call : Call η ε} (hcall : call ∈ calls)
    {cause : ε} (hcause : call.failure? = some cause) : result = .error (.execution cause) := by
  cases h with
  | waits => exact absurd hcall List.not_mem_nil
  | fills =>
    obtain rfl := List.mem_singleton.mp hcall
    rw [heard_of_failure hcause]
    rfl

/-- No failure of a call is hidden from the caller. -/
theorem Performs.error_of_failure {result : Except (BatchError ε) (Option Bool)}
    (h : Performs e s w operation calls result s' w') {call : Call η ε} (hcall : call ∈ calls)
    {cause : ε} (hcause : call.failure? = some cause) : result = .error (.execution cause) := by
  cases h with
  | mismatched => exact absurd hcall List.not_mem_nil
  | blocked =>
    obtain rfl := List.mem_singleton.mp hcall
    obtain rfl := Option.some.inj hcause
    rfl
  | retried _ _ _ hrow =>
    rcases List.mem_cons.mp hcall with rfl | hcall
    · exact nomatch hcause
    · rw [hrow.error_of_failure hcall hcause]
      rfl
  | queued _ _ hrow =>
    rw [hrow.error_of_failure hcall hcause]
    rfl
  | idle => exact absurd hcall List.not_mem_nil
  | flushedBatch =>
    obtain rfl := List.mem_singleton.mp hcall
    rw [heard_of_failure hcause]
    rfl
  | refused =>
    obtain rfl := List.mem_singleton.mp hcall
    obtain rfl := Option.some.inj hcause
    rfl
  | flushedRest =>
    rcases List.mem_cons.mp hcall with rfl | hcall
    · exact nomatch hcause
    · obtain rfl := List.mem_singleton.mp hcall
      rw [heard_of_failure hcause]
      rfl
  | reset => exact absurd hcall List.not_mem_nil

theorem Performs.mismatched_row {result : Except (BatchError ε) (Option Bool)}
    (h : Performs e s w (.queue row) calls result s' w') (hlen : row.length ≠ w.arity) :
    result = .error (.arity w.arity row.length) ∧ calls = [] ∧ w' = w := by
  cases h with
  | mismatched => exact ⟨rfl, rfl, rfl⟩
  | blocked heq => exact absurd heq hlen
  | retried heq => exact absurd heq hlen
  | queued heq => exact absurd heq hlen

end Paths

section Sessions

variable {e : Executor σ η ε} {s : σ} {batchSize : Nat} {table : String} {fields : FieldSet}
  {variant : Variant} {operations : List Operation} {h : History σ η ε}

/-- In every state that a writer can get into: a row of the wrong length is told by its lengths and
changes nothing, a flush that fails changes nothing, and a row of the right length that fails was
refused with everything as it was, or it is kept in a full batch. Apart from the wrong length, an
error is just the one that the last call of the operation was answered with. -/
theorem failures_atomic
    (hrun : session e s batchSize table fields variant operations = .ok h) :
    ∀ x ∈ h.steps,
      (∀ row, x.operation = .queue row → row.length ≠ x.before.arity →
        x.result = .error (.arity x.before.arity row.length) ∧ x.calls = [] ∧
          x.after = x.before) ∧
      (∀ error, x.operation = .flush → x.result = .error error → ∃ cause,
        error = .execution cause ∧ Call.EndIn x.calls cause ∧ x.after = x.before) ∧
      (∀ row error, x.operation = .queue row → row.length = x.before.arity →
        x.result = .error error → ∃ cause,
          error = .execution cause ∧ Call.EndIn x.calls cause ∧
            (x.RefusesRow cause ∨ x.KeepsRow row cause)) ∧
      ∀ call ∈ x.calls, ∀ cause, call.failure? = some cause →
        x.result = .error (.execution cause) := by
  intro x hx
  obtain ⟨s, s', hpath⟩ := session_performs hrun x hx
  obtain ⟨operation, before, calls, result, after⟩ := x
  refine ⟨?_, ?_, ?_, ?_⟩
  · rintro row rfl hlen
    exact hpath.mismatched_row hlen
  · rintro error rfl rfl
    exact hpath.flush_failed
  · rintro row error rfl hlen rfl
    exact hpath.row_failed hlen
  · intro call hcall cause hcause
    exact hpath.error_of_failure hcall hcause

end Sessions

/-- Batches of one row. A row is kept, one of the wrong length and one behind the full batch are
refused, the next is kept after a retry, and a flush fails. -/
def lateFailures : Except (BatchError String) (History Script String String) :=
  session (Script.executor .numbered)
    ⟨[], [.error "locked", .error "busy", .ok 1, .error "full", .error "gone"]⟩ 1 "users" users
    .insertIgnore
    [.queue [.int 1, .null], .queue [.null], .queue [.int 2, .null], .queue [.int 3, .null], .flush]

theorem lateFailures_atomic : ∃ h, lateFailures = .ok h ∧ ∃ x ∈ h.steps,
    x.operation = .queue [.int 3, .null] ∧ x.result = .error (.execution "full") ∧
      x.before.pending = x.before.batchSize ∧ x.KeepsRow [.int 3, .null] "full" := by
  have hrun : lateFailures = .ok _ := rfl
  refine ⟨_, hrun, _, List.mem_of_getElem? (i := 3) rfl, rfl, rfl, rfl, ?_⟩
  obtain ⟨-, -, hrow, -⟩ := failures_atomic hrun _ (List.mem_of_getElem? (i := 3) rfl)
  obtain ⟨cause, hcause, -, hrefused | hkept⟩ := hrow _ _ rfl rfl rfl
  · exact nomatch hrefused.calls_eq
  · obtain rfl := BatchError.execution.inj hcause
    exact hkept

end Writer
end RowBatch
