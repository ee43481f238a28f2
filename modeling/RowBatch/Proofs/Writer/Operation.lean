import RowBatch.Writer.Run

/-!
What an operation of a writer can do, path by path. Every answer of an executor is possible, so a
path is told by the answers that were given on it.
-/

namespace RowBatch
namespace Writer

variable {σ η ε : Type}

@[simp] def settled (w : Writer η) : Except ε UInt64 → Writer η
  | .error _ => w
  | .ok count => w.written count

@[simp] theorem settled_toSetup (w : Writer η) (answer : Except ε UInt64) :
    (w.settled answer).toSetup = w.toSetup := by
  cases answer <;> rfl

@[simp] def heard : Except ε UInt64 → Except (BatchError ε) Unit
  | .error cause => .error (.execution cause)
  | .ok _ => .ok ()

/-- Taking a row into a buffer that has room. -/
inductive Accepts (e : Executor σ η ε) (s : σ) (w : Writer η) (row : Row) (wrote : Bool) :
    List (Call η ε) → Except (BatchError ε) Bool → σ → Writer η → Prop
  | waits (hroom : w.pending + 1 ≠ w.batchSize) :
      Accepts e s w row wrote [] (.ok wrote) s (w.holding row)
  | fills {s' answer} (hfull : w.pending + 1 = w.batchSize)
      (hexec : e.execute s w.statement (w.holding row).parameters = (s', answer)) :
      Accepts e s w row wrote [.execute w.statement (w.holding row).parameters answer]
        ((heard answer).map fun _ => true) s' ((w.holding row).settled answer)

/-- An operation with its calls, its answer, and the state and the writer that it leaves. -/
inductive Performs (e : Executor σ η ε) (s : σ) (w : Writer η) :
    Operation → List (Call η ε) → Except (BatchError ε) (Option Bool) → σ → Writer η → Prop
  | mismatched {row} (hlen : row.length ≠ w.arity) :
      Performs e s w (.queue row) [] (.error (.arity w.arity row.length)) s w
  | blocked {row s' cause} (hlen : row.length = w.arity) (hfull : w.pending = w.batchSize)
      (hexec : e.execute s w.statement w.parameters = (s', .error cause)) :
      Performs e s w (.queue row) [.execute w.statement w.parameters (.error cause)]
        (.error (.execution cause)) s' w
  | retried {row s' count calls result s'' w'} (hlen : row.length = w.arity)
      (hfull : w.pending = w.batchSize)
      (hexec : e.execute s w.statement w.parameters = (s', .ok count))
      (hrow : Accepts e s' (w.written count) row true calls result s'' w') :
      Performs e s w (.queue row) (.execute w.statement w.parameters (.ok count) :: calls)
        (result.map some) s'' w'
  | queued {row calls result s' w'} (hlen : row.length = w.arity) (hroom : w.pending ≠ w.batchSize)
      (hrow : Accepts e s w row false calls result s' w') :
      Performs e s w (.queue row) calls (result.map some) s' w'
  | idle (hnone : w.pending = 0) : Performs e s w .flush [] (.ok none) s w
  | flushedBatch {s' answer} (hsome : w.pending ≠ 0) (hfull : w.pending = w.batchSize)
      (hexec : e.execute s w.statement w.parameters = (s', answer)) :
      Performs e s w .flush [.execute w.statement w.parameters answer]
        ((heard answer).map fun _ => none) s' (w.settled answer)
  | refused {s' cause} (hsome : w.pending ≠ 0) (hroom : w.pending ≠ w.batchSize)
      (hprep : e.prepareTransient s (w.template.text w.pending) = (s', .error cause)) :
      Performs e s w .flush [.prepareTransient (w.template.text w.pending) (.error cause)]
        (.error (.execution cause)) s' w
  | flushedRest {s' s'' statement answer} (hsome : w.pending ≠ 0) (hroom : w.pending ≠ w.batchSize)
      (hprep : e.prepareTransient s (w.template.text w.pending) = (s', .ok statement))
      (hexec : e.execute s' statement w.parameters = (s'', answer)) :
      Performs e s w .flush
        [.prepareTransient (w.template.text w.pending) (.ok statement),
          .execute statement w.parameters answer]
        ((heard answer).map fun _ => none) s'' (w.settled answer)
  | reset : Performs e s w .reset [] (.ok none) s w.reset

section Paths

variable {e : Executor σ η ε} {s s' : σ} {w w' : Writer η} {operation : Operation}
  {calls : List (Call η ε)} {result : Except (BatchError ε) (Option Bool)}

theorem Accepts.toSetup_eq {row : Row} {wrote : Bool} {result : Except (BatchError ε) Bool}
    (h : Accepts e s w row wrote calls result s' w') : w'.toSetup = w.toSetup := by
  cases h with
  | waits => rfl
  | fills => exact settled_toSetup _ _

theorem Performs.toSetup_eq (h : Performs e s w operation calls result s' w') :
    w'.toSetup = w.toSetup := by
  cases h with
  | retried _ _ _ hrow => exact hrow.toSetup_eq
  | queued _ _ hrow => exact hrow.toSetup_eq
  | flushedBatch => exact settled_toSetup _ _
  | flushedRest => exact settled_toSetup _ _
  | _ => rfl

theorem Performs.calls_reset (h : Performs e s w operation calls result s' w')
    (hreset : operation = .reset) : calls = [] := by
  subst hreset
  cases h
  rfl

end Paths

variable {e : Executor σ η ε} {s s' s'' : σ} {w : Writer η} (calls : List (Call η ε))

theorem executeBatch_recorded {answer : Except ε UInt64}
    (hexec : e.execute s w.statement w.parameters = (s', answer)) :
    (executeBatch e.recorded (s, calls) w).state =
        ((s', .execute w.statement w.parameters answer :: calls), w.settled answer) ∧
      (executeBatch e.recorded (s, calls) w).result = heard answer := by
  cases answer <;> simp [executeBatch, Executor.recorded, hexec, settled, heard]

theorem executeRest_refused {cause : ε}
    (hprep : e.prepareTransient s (w.template.text w.pending) = (s', .error cause)) :
    (executeRest e.recorded (s, calls) w).state =
        ((s', .prepareTransient (w.template.text w.pending) (.error cause) :: calls), w) ∧
      (executeRest e.recorded (s, calls) w).result = .error (.execution cause) := by
  simp [executeRest, Executor.recorded, hprep]

theorem executeRest_prepared {statement : η} {answer : Except ε UInt64}
    (hprep : e.prepareTransient s (w.template.text w.pending) = (s', .ok statement))
    (hexec : e.execute s' statement w.parameters = (s'', answer)) :
    (executeRest e.recorded (s, calls) w).state =
        ((s'', .execute statement w.parameters answer ::
          .prepareTransient (w.template.text w.pending) (.ok statement) :: calls),
          w.settled answer) ∧
      (executeRest e.recorded (s, calls) w).result = heard answer := by
  cases answer <;> simp [executeRest, Executor.recorded, hprep, hexec, settled, heard]

theorem accept_recorded (row : Row) (wrote : Bool) : ∃ new result s' w',
    Accepts e s w row wrote new result s' w' ∧
      (accept e.recorded (s, calls) w row wrote).state = ((s', new.reverse ++ calls), w') ∧
      (accept e.recorded (s, calls) w row wrote).result = result := by
  by_cases hfull : w.pending + 1 = w.batchSize
  · rcases hexec : e.execute s w.statement (w.holding row).parameters with ⟨s', answer⟩
    have hbatch := executeBatch_recorded (w := w.holding row) calls hexec
    refine ⟨_, _, _, _, .fills hfull hexec, ?_⟩
    simpa [accept, hfull, Outcome.map] using And.imp_right (congrArg (Except.map fun _ => true)) hbatch
  · exact ⟨_, _, _, _, .waits hfull, by simp [accept, hfull]⟩

theorem queue_recorded (row : Row) : ∃ new result s' w',
    Performs e s w (.queue row) new (result.map some) s' w' ∧
      (queue e.recorded (s, []) w row).state = ((s', new.reverse), w') ∧
      (queue e.recorded (s, []) w row).result = result := by
  by_cases hlen : row.length = w.arity
  · by_cases hfull : w.pending = w.batchSize
    · rcases hexec : e.execute s w.statement w.parameters with ⟨s', answer⟩
      obtain ⟨hstate, hresult⟩ := executeBatch_recorded [] hexec
      cases answer with
      | error cause =>
        refine ⟨_, .error (.execution cause), _, _, .blocked hlen hfull hexec, ?_⟩
        simp [queue, hlen, hfull, hresult, hstate, heard, settled]
      | ok count =>
        obtain ⟨new, result, s'', w', hrow, hafter, hanswer⟩ := accept_recorded (e := e) (s := s')
          (w := w.written count) [.execute w.statement w.parameters (.ok count)] row true
        refine ⟨_, _, _, _, .retried hlen hfull hexec hrow, ?_⟩
        simp [queue, hlen, hfull, hresult, hstate, heard, settled, Outcome.after, hafter, hanswer]
    · obtain ⟨new, result, s', w', hrow, hafter, hanswer⟩ :=
        accept_recorded (e := e) (s := s) (w := w) [] row false
      refine ⟨_, _, _, _, .queued hlen hfull hrow, ?_⟩
      simp [queue, hlen, hfull, hafter, hanswer]
  · refine ⟨_, .error (.arity w.arity row.length), _, _, .mismatched hlen, ?_⟩
    simp [queue, hlen]

theorem flush_recorded : ∃ new result s' w',
    Performs e s w .flush new (result.map fun _ => none) s' w' ∧
      (flush e.recorded (s, []) w).state = ((s', new.reverse), w') ∧
      (flush e.recorded (s, []) w).result = result := by
  by_cases hnone : w.pending = 0
  · exact ⟨_, .ok (), _, _, .idle hnone, by simp [flush, hnone]⟩
  · by_cases hfull : w.pending = w.batchSize
    · rcases hexec : e.execute s w.statement w.parameters with ⟨s', answer⟩
      have hbatch := executeBatch_recorded [] hexec
      refine ⟨_, _, _, _, .flushedBatch hnone hfull hexec, ?_⟩
      rw [flush, if_neg hnone, if_pos hfull]
      exact hbatch
    · rcases hprep : e.prepareTransient s (w.template.text w.pending) with ⟨s', prepared⟩
      cases prepared with
      | error cause =>
        have hrest := executeRest_refused [] hprep
        refine ⟨_, .error (.execution cause), _, _, .refused hnone hfull hprep, ?_⟩
        simpa [flush, hnone, hfull] using hrest
      | ok statement =>
        rcases hexec : e.execute s' statement w.parameters with ⟨s'', answer⟩
        have hrest := executeRest_prepared [] hprep hexec
        refine ⟨_, _, _, _, .flushedRest hnone hfull hprep hexec, ?_⟩
        simpa [flush, hnone, hfull] using hrest

theorem perform_recorded (operation : Operation) :
    let o := perform e.recorded (s, []) w operation
    Performs e s w operation o.state.1.2.reverse o.result o.state.1.1 o.state.2 := by
  cases operation with
  | queue row =>
    obtain ⟨new, result, s', w', hpath, hstate, hresult⟩ := queue_recorded (e := e) (s := s) (w := w) row
    simpa [perform, Outcome.map, hstate, hresult] using hpath
  | flush =>
    obtain ⟨new, result, s', w', hpath, hstate, hresult⟩ := flush_recorded (e := e) (s := s) (w := w)
    simpa [perform, Outcome.map, hstate, hresult] using hpath
  | reset => exact .reset

end Writer
end RowBatch
