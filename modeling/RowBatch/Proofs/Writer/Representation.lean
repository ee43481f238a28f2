import RowBatch.Executor
import RowBatch.Proofs.Writer.Blocking

/-!
What the fields of a writer say of each other and of the calls, in every state that it can get into.
A full batch waits just when the last call was its execution, this failed, and no reset came after
it; so an operation that answers without an error leaves room in the batch.
-/

namespace RowBatch
namespace Writer

open Journal

variable {σ η ε : Type}

/-- The buffer holds whole rows, no more than a batch of them and no more than were accepted, and
the text of the prepared statement is that of a full batch. -/
structure WellFormed (w : Writer η) : Prop where
  size_eq : w.buffer.size = w.pending * w.arity
  pending_le_batchSize : w.pending ≤ w.batchSize
  pending_le_total : w.pending ≤ w.total
  pending_le_reportedTotal : w.total < UInt64.size → w.pending ≤ w.reportedTotal.toNat
  batchSize_pos : 1 ≤ w.batchSize
  arity_pos : 1 ≤ w.arity
  text_eq : w.statementText = w.template.text w.batchSize

theorem Ledger.wellFormed {j : List (Entry η ε)} {w : Writer η} (h : Ledger j w)
    (hpos : 0 < w.batchSize) (htext : w.statementText = w.template.text w.batchSize) :
    w.WellFormed where
  size_eq := by
    rw [← h.parameters_length, parameters, Array.length_toList]
  pending_le_batchSize := h.pending_le
  pending_le_total := h.pending_le_total
  pending_le_reportedTotal := fun hbound => (toNat_reportedTotal hbound).symm ▸ h.pending_le_total
  batchSize_pos := hpos
  arity_pos := Writer.arity_pos w.toSetup
  text_eq := htext

/-- The last call of the step was an execution of the statement for a full batch, and it failed. A
statement for fewer rows is prepared in the step that executes it, and here nothing was prepared. -/
def Step.EndsInFailedBatch (x : Step η ε) : Prop :=
  (∃ parameters cause,
    x.calls.getLast? = some (.execute x.before.statement parameters (.error cause))) ∧
    ∀ text answer, .prepareTransient text answer ∉ x.calls

theorem Step.EndsInFailedBatch.failsFull {x : Step η ε} (h : x.EndsInFailedBatch) :
    ∃ parameters, x.FailsFull parameters := by
  obtain ⟨⟨parameters, cause, hlast⟩, hprepared⟩ := h
  exact ⟨parameters, ⟨cause, List.mem_of_getLast? hlast⟩, hprepared⟩

def History.EndsInFailedBatch (h : History σ η ε) : Prop :=
  ∃ earlier x later, h.steps = earlier ++ x :: later ∧ x.EndsInFailedBatch ∧
    ∀ y ∈ later, y.calls = [] ∧ y.operation ≠ .reset

/-- The operations that leave a full batch: a row of the wrong length, which leaves the one that it
finds, and whatever ends with the failed execution of one. -/
inductive LeavesFull (w : Writer η) :
    Operation → List (Call η ε) → Except (BatchError ε) (Option Bool) → Prop
  | mismatched {row} (hlen : row.length ≠ w.arity) (hfull : w.pending = w.batchSize) :
      LeavesFull w (.queue row) [] (.error (.arity w.arity row.length))
  | failed {operation parameters cause} (earlier : List (Call η ε))
      (hearlier : ∀ text answer, .prepareTransient text answer ∉ earlier) :
      LeavesFull w operation (earlier ++ [.execute w.statement parameters (.error cause)])
        (.error (.execution cause))

section Paths

variable {e : Executor σ η ε} {s s' : σ} {w w' : Writer η} {operation : Operation}
  {calls : List (Call η ε)}

theorem Accepts.failed_of_full {row : Row} {wrote : Bool} {result : Except (BatchError ε) Bool}
    (h : Accepts e s w row wrote calls result s' w') (hpos : 0 < w.batchSize)
    (hfull : w'.pending = w'.batchSize) : ∃ parameters cause,
      calls = [.execute w.statement parameters (.error cause)] ∧
        result = .error (.execution cause) := by
  cases h with
  | waits hroom => exact absurd hfull hroom
  | @fills _ answer =>
    cases answer with
    | error cause => exact ⟨_, cause, rfl, rfl⟩
    | ok count => exact absurd hfull (Nat.ne_of_lt hpos)

theorem Performs.leavesFull {result : Except (BatchError ε) (Option Bool)}
    (h : Performs e s w operation calls result s' w') (hpos : 0 < w.batchSize)
    (hfull : w'.pending = w'.batchSize) : LeavesFull w operation calls result := by
  cases h with
  | mismatched hlen => exact .mismatched hlen hfull
  | blocked => exact .failed [] (by simp)
  | @retried _ _ count _ _ _ _ _ _ _ hrow =>
    obtain ⟨parameters, cause, rfl, rfl⟩ := hrow.failed_of_full hpos hfull
    exact .failed [.execute w.statement w.parameters (.ok count)] (by simp)
  | queued _ _ hrow =>
    obtain ⟨parameters, cause, rfl, rfl⟩ := hrow.failed_of_full hpos hfull
    exact .failed [] (by simp)
  | idle hnone => exact absurd (hnone.symm.trans hfull) (Nat.ne_of_lt hpos)
  | @flushedBatch _ answer =>
    cases answer with
    | error cause => exact .failed [] (by simp)
    | ok count => exact absurd hfull (Nat.ne_of_lt hpos)
  | refused _ hroom _ => exact absurd hfull hroom
  | @flushedRest _ _ _ answer _ hroom _ _ =>
    cases answer with
    | error cause => exact absurd hfull hroom
    | ok count => exact absurd hfull (Nat.ne_of_lt hpos)
  | reset => exact absurd hfull (Nat.ne_of_lt hpos)

theorem LeavesFull.error {result : Except (BatchError ε) (Option Bool)}
    (h : LeavesFull w operation calls result) : ∃ error, result = .error error := by
  cases h with
  | mismatched => exact ⟨_, rfl⟩
  | failed => exact ⟨_, rfl⟩

theorem LeavesFull.cases {result : Except (BatchError ε) (Option Bool)}
    (h : LeavesFull w operation calls result) :
    w.pending = w.batchSize ∧ calls = [] ∧ operation ≠ .reset ∨
      Step.EndsInFailedBatch ⟨operation, w, calls, result, w'⟩ := by
  cases h with
  | mismatched _ hfull => exact .inl ⟨hfull, rfl, nofun⟩
  | failed earlier hearlier => exact .inr ⟨⟨_, _, List.getLast?_concat⟩, by simpa using hearlier⟩

end Paths

section Sessions

variable {e : Executor σ η ε} {s : σ} {batchSize : Nat} {table : String} {fields : FieldSet}
  {variant : Variant} {operations : List Operation} {h : History σ η ε}

theorem session_wellFormed (hrun : session e s batchSize table fields variant operations = .ok h) :
    h.writer.WellFormed := by
  obtain ⟨_, hopened, hexec⟩ := session_exec hrun
  exact hexec.ledger.wellFormed hopened.batchSize_pos hopened.text_eq

theorem session_endsInFailedBatch
    (hrun : session e s batchSize table fields variant operations = .ok h)
    (hfull : h.writer.pending = h.writer.batchSize) : h.EndsInFailedBatch := by
  revert hfull
  apply session_induction hrun
  · intro u s' hopened hfull
    exact absurd hfull (Nat.ne_of_lt hopened.batchSize_pos)
  · intro operations operation h hprevious ih hfull
    obtain ⟨⟨operation', before, calls, result, after⟩, hsteps, hoperation, hwriter, -, hpath⟩ :=
      h.advance_performs (e := e) operation
    obtain rfl : operation' = operation := hoperation
    obtain rfl : before = h.writer := hwriter
    have hpos := (session_wellFormed hprevious).batchSize_pos
    rcases (hpath.leavesFull hpos hfull).cases with ⟨hbefore, hcalls, hreset⟩ | hfailed
    · -- The batch was full before, and the call behind which it waits is still the last one.
      obtain ⟨earlier, x, later, hsplit, hx, hlater⟩ := ih hbefore
      refine ⟨earlier, x, later ++ [_], by rw [hsteps, hsplit, List.append_assoc]; rfl, hx, ?_⟩
      intro y hy
      rcases List.mem_append.mp hy with hy | hy
      · exact hlater y hy
      · obtain rfl := List.mem_singleton.mp hy
        exact ⟨hcalls, hreset⟩
    · exact ⟨h.steps, _, [], hsteps, hfailed, by simp⟩

theorem session_full_iff (hrun : session e s batchSize table fields variant operations = .ok h) :
    h.writer.pending = h.writer.batchSize ↔ h.EndsInFailedBatch := by
  refine ⟨session_endsInFailedBatch hrun, ?_⟩
  rintro ⟨earlier, x, later, hsplit, hx, hlater⟩
  obtain ⟨parameters, hfails⟩ := hx.failsFull
  have hbetween : ∀ z ∈ later, z.operation ≠ .reset ∧ ¬z.Writes x.before.statement parameters := by
    intro z hz
    obtain ⟨hcalls, hreset⟩ := hlater z hz
    exact ⟨hreset, by simp [Step.Writes, hcalls]⟩
  obtain ⟨hwriter, hfull, -⟩ := session_blocked hrun hsplit hfails hbetween
  rw [hwriter]
  exact hfull

theorem session_room (hrun : session e s batchSize table fields variant operations = .ok h) :
    ∀ x ∈ h.steps, ∀ answer, x.result = .ok answer → x.after.pending < x.after.batchSize := by
  apply session_induction hrun
  · intro u s' _ x hx
    exact nomatch hx
  · intro operations operation h hprevious ih x hx answer hanswer
    obtain ⟨y, hsteps, -, -, hafter, hpath⟩ := h.advance_performs (e := e) operation
    rw [hsteps] at hx
    rcases List.mem_append.mp hx with hx | hx
    · exact ih x hx answer hanswer
    · obtain rfl := List.mem_singleton.mp hx
      have hwell := session_wellFormed (session_append hprevious [operation])
      have hpos := (session_wellFormed hprevious).batchSize_pos
      rw [hafter]
      refine Nat.lt_of_le_of_ne hwell.pending_le_batchSize fun hfull => ?_
      obtain ⟨error, herror⟩ := (hpath.leavesFull hpos hfull).error
      exact nomatch hanswer.symm.trans herror

/-- What every state of a writer has in common, whatever was asked for and answered before. -/
theorem fields_agree (hrun : session e s batchSize table fields variant operations = .ok h) :
    h.writer.WellFormed ∧ h.writer.batchSize = batchSize ∧
      (h.writer.pending = h.writer.batchSize ↔ h.EndsInFailedBatch) ∧
      ∀ x ∈ h.steps, ∀ answer, x.result = .ok answer → x.after.pending < x.after.batchSize := by
  obtain ⟨_, hopened, -⟩ := session_exec hrun
  exact ⟨session_wellFormed hrun, hopened.batchSize_eq, session_full_iff hrun, session_room hrun⟩

end Sessions

def fullBatch : Except (BatchError String) (History Script String String) :=
  session (Script.executor .numbered) ⟨[.ok (), .error "no statement"], [.error "locked"]⟩ 2 "users"
    users .insertIgnore
    [.queue [.int 1, .null], .flush, .queue [.int 2, .null], .queue [.int 3]]

theorem fullBatch_fields_agree : ∃ h, fullBatch = .ok h ∧ h.writer.pending = 2 ∧
    h.EndsInFailedBatch ∧ h.writer.buffer.size = h.writer.pending * h.writer.arity := by
  have hrun : fullBatch = .ok _ := rfl
  obtain ⟨hwell, -, hfull, -⟩ := fields_agree hrun
  exact ⟨_, hrun, rfl, hfull.mp rfl, hwell.size_eq⟩

end Writer
end RowBatch
