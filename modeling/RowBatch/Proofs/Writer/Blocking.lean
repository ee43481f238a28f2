import RowBatch.Executor
import RowBatch.Proofs.Writer.Ledger
import RowBatch.Proofs.Writer.Session

/-!
A full batch that could not be written stands in the way of everything behind it. Until it is written
or dropped, every operation that sends rows starts with the same execution again, and nothing else
happens.
-/

namespace RowBatch
namespace Writer

open Journal

variable {σ η ε : Type}

@[simp] def Operation.Sends (width : Nat) : Operation → Prop
  | .queue row => row.length = width
  | .flush => True
  | .reset => False

/-- The execution of a full batch with these values failed in this step. Nothing was prepared for it,
so it was that of the statement that the writer keeps. -/
def Step.FailsFull (x : Step η ε) (parameters : List Value) : Prop :=
  (∃ cause, .execute x.before.statement parameters (.error cause) ∈ x.calls) ∧
    ∀ text answer, .prepareTransient text answer ∉ x.calls

theorem Step.failsFull_of_calls {x : Step η ε} {parameters : List Value} {cause : ε}
    (h : x.calls = [.execute x.before.statement parameters (.error cause)]) :
    x.FailsFull parameters := by
  rw [FailsFull, h]
  exact ⟨⟨cause, List.mem_cons_self⟩, by simp⟩

def Step.Writes (x : Step η ε) (statement : η) (parameters : List Value) : Prop :=
  ∃ count, .execute statement parameters (.ok count) ∈ x.calls

/-- A step that finds a full batch with these values. If it sends anything, it sends the batch first.
As long as the batch is neither written nor dropped, the step takes no row, prepares nothing and
leaves the writer as it was. Once the batch is written its count is added, and in the same step at
most the new row is sent. -/
structure Step.FindsFull (x : Step η ε) (statement : η) (parameters : List Value) : Prop where
  starts : x.operation.Sends x.before.arity → ∃ answer rest,
    x.calls = .execute statement parameters answer :: rest
  unchanged : x.operation ≠ .reset → ¬x.Writes statement parameters →
    x.accepted? = none ∧ (∀ text answer, .prepareTransient text answer ∉ x.calls) ∧
      x.after = x.before
  counted : ∀ count rest, x.calls = .execute statement parameters (.ok count) :: rest →
    x.after.affected = x.before.affected + count + UInt64.ofNat (rest.map Call.count).sum ∧
      ∀ call ∈ rest, ∃ row answer,
        x.operation = .queue row ∧ call = .execute statement row answer

/-- What an operation can do while a full batch waits, but for its answer. -/
inductive Impeded (w : Writer η) : Operation → List (Call η ε) → Writer η → Prop
  | mismatched {row} (hlen : row.length ≠ w.arity) : Impeded w (.queue row) [] w
  | failed {operation cause} (hsends : operation.Sends w.arity) :
      Impeded w operation [.execute w.statement w.parameters (.error cause)] w
  | written {operation count rest w'} (hsends : operation.Sends w.arity)
      (hrest : ∀ call ∈ rest, ∃ row answer,
        operation = .queue row ∧ call = .execute w.statement row answer) :
      Impeded w operation (.execute w.statement w.parameters (.ok count) :: rest) w'
  | reset : Impeded w .reset [] w.reset

section Paths

variable {e : Executor σ η ε} {s s' : σ} {w w' : Writer η} {operation : Operation}
  {calls : List (Call η ε)} {result : Except (BatchError ε) (Option Bool)}

theorem Accepts.calls_of_written {row : Row} {count : UInt64} {wrote : Bool}
    {result : Except (BatchError ε) Bool}
    (h : Accepts e s (w.written count) row wrote calls result s' w') :
    ∀ call ∈ calls, ∃ answer, call = .execute w.statement row answer := by
  cases h with
  | waits => simp
  | fills => simp

theorem Performs.impeded (h : Performs e s w operation calls result s' w')
    (hfull : w.pending = w.batchSize) (hpos : 0 < w.batchSize) : Impeded w operation calls w' := by
  cases h with
  | mismatched hlen => exact .mismatched hlen
  | blocked hlen => exact .failed hlen
  | retried hlen _ _ hrow =>
    refine .written hlen fun call hcall => ?_
    obtain ⟨answer, rfl⟩ := hrow.calls_of_written call hcall
    exact ⟨_, answer, rfl, rfl⟩
  | queued _ hroom _ => exact absurd hfull hroom
  | idle hnone => omega
  | @flushedBatch _ answer =>
    cases answer with
    | error cause => exact .failed trivial
    | ok count => exact .written trivial (by simp)
  | refused _ hroom _ => exact absurd hfull hroom
  | flushedRest _ hroom _ _ => exact absurd hfull hroom
  | reset => exact .reset

theorem Accepts.full_of_failure {row : Row} {wrote : Bool} {result : Except (BatchError ε) Bool}
    (h : Accepts e s w row wrote calls result s' w') {statement : η} {parameters : List Value}
    {cause : ε} (hcall : .execute statement parameters (.error cause) ∈ calls) :
    w'.pending = w'.batchSize ∧ w'.parameters = parameters := by
  cases h with
  | waits => exact absurd hcall List.not_mem_nil
  | fills hfills _ =>
    obtain ⟨-, rfl, rfl⟩ := Call.execute.inj (List.mem_singleton.mp hcall)
    exact ⟨hfills, rfl⟩

theorem Performs.full_of_failure (h : Performs e s w operation calls result s' w')
    {parameters : List Value} (hfail : Step.FailsFull ⟨operation, w, calls, result, w'⟩ parameters) :
    w'.pending = w'.batchSize ∧ w'.parameters = parameters := by
  obtain ⟨⟨cause, hcall⟩, hprepared⟩ := hfail
  cases h with
  | mismatched => exact absurd hcall List.not_mem_nil
  | blocked _ hfull _ =>
    obtain ⟨-, rfl, -⟩ := Call.execute.inj (List.mem_singleton.mp hcall)
    exact ⟨hfull, rfl⟩
  | retried _ _ _ hrow =>
    rcases List.mem_cons.mp hcall with hretry | hcall
    · exact nomatch (Call.execute.inj hretry).2.2
    · exact hrow.full_of_failure hcall
  | queued _ _ hrow => exact hrow.full_of_failure hcall
  | idle => exact absurd hcall List.not_mem_nil
  | flushedBatch _ hfull _ =>
    obtain ⟨-, rfl, rfl⟩ := Call.execute.inj (List.mem_singleton.mp hcall)
    exact ⟨hfull, rfl⟩
  | refused => exact absurd List.mem_cons_self (hprepared _ _)
  | flushedRest => exact absurd List.mem_cons_self (hprepared _ _)
  | reset => exact absurd hcall List.not_mem_nil

theorem affected_settled (w : Writer η) (statement : η) (parameters : List Value)
    (answer : Except ε UInt64) : (w.settled answer).affected =
      w.affected + UInt64.ofNat (Call.execute statement parameters answer).count := by
  cases answer with
  | error cause => simp [Call.count]
  | ok count => simp [Call.count]

theorem Accepts.affected_eq {row : Row} {wrote : Bool} {result : Except (BatchError ε) Bool}
    (h : Accepts e s w row wrote calls result s' w') :
    w'.affected = w.affected + UInt64.ofNat (calls.map Call.count).sum := by
  cases h with
  | waits => simp
  | fills => simpa using affected_settled (w.holding row) w.statement _ _

theorem Performs.affected_eq (h : Performs e s w operation calls result s' w')
    (hreset : operation ≠ .reset) :
    w'.affected = w.affected + UInt64.ofNat (calls.map Call.count).sum := by
  cases h with
  | mismatched => simp
  | blocked => simp [Call.count]
  | @retried _ _ count _ _ _ _ _ _ _ hrow =>
    rw [hrow.affected_eq]
    simp [Call.count, UInt64.ofNat_add, UInt64.add_assoc]
  | queued _ _ hrow => exact hrow.affected_eq
  | idle => simp
  | flushedBatch => simpa using affected_settled w w.statement w.parameters _
  | refused => simp [Call.count]
  | @flushedRest _ _ statement answer =>
    simpa [Call.count] using affected_settled w statement w.parameters answer
  | reset => exact absurd rfl hreset

theorem Impeded.starts (h : Impeded w operation calls w') (hsends : operation.Sends w.arity) :
    ∃ answer rest, calls = .execute w.statement w.parameters answer :: rest := by
  cases h with
  | mismatched hlen => exact absurd hsends hlen
  | failed => exact ⟨_, _, rfl⟩
  | written => exact ⟨_, _, rfl⟩
  | reset => exact hsends.elim

theorem Impeded.unchanged (h : Impeded w operation calls w') (hfull : w.pending = w.batchSize)
    (hreset : operation ≠ .reset)
    (hwrites : ¬Step.Writes ⟨operation, w, calls, result, w'⟩ w.statement w.parameters) :
    Step.accepted? ⟨operation, w, calls, result, w'⟩ = none ∧
      (∀ text answer, .prepareTransient text answer ∉ calls) ∧ w' = w := by
  cases h with
  | mismatched hlen => exact ⟨by simp [Step.accepted?, hlen], by simp, rfl⟩
  | failed =>
    refine ⟨?_, by simp, rfl⟩
    cases operation <;> simp [Step.accepted?, hfull, Call.wrote]
  | written => exact absurd ⟨_, List.mem_cons_self⟩ hwrites
  | reset => exact absurd rfl hreset

theorem Impeded.rest (h : Impeded w operation calls w') {first : Call η ε}
    {rest : List (Call η ε)} (hcalls : calls = first :: rest) :
    ∀ call ∈ rest, ∃ row answer, operation = .queue row ∧ call = .execute w.statement row answer := by
  cases h with
  | mismatched => exact nomatch hcalls
  | failed =>
    obtain ⟨-, rfl⟩ := List.cons.inj hcalls
    simp
  | written _ hrest =>
    obtain ⟨-, rfl⟩ := List.cons.inj hcalls
    exact hrest
  | reset => exact nomatch hcalls

theorem Performs.findsFull (h : Performs e s w operation calls result s' w')
    (hfull : w.pending = w.batchSize) (hpos : 0 < w.batchSize) :
    Step.FindsFull ⟨operation, w, calls, result, w'⟩ w.statement w.parameters where
  starts := (h.impeded hfull hpos).starts
  unchanged := (h.impeded hfull hpos).unchanged hfull
  counted := by
    rintro count rest rfl
    have hreset : operation ≠ .reset := fun hreset => nomatch h.calls_reset hreset
    refine ⟨?_, (h.impeded hfull hpos).rest rfl⟩
    rw [h.affected_eq hreset]
    simp [Call.count, UInt64.ofNat_add, UInt64.add_assoc]

end Paths

def WaitsAtMost (size : Nat) (past : List (Entry η ε)) (entry : Entry η ε) : Prop :=
  (waiting (past ++ [entry])).length ≤ size

theorem Ledger.waiting_le {j : List (Entry η ε)} {w : Writer η} (h : Ledger j w) :
    (waiting j).length ≤ w.batchSize := by
  rw [← h.pending_eq]
  exact h.pending_le

/-- Not even while an operation is under way do more rows wait than fit into a batch. -/
theorem Exec.each_waitsAtMost {e : Executor σ η ε} {s s' : σ} {u : Setup η} {w' : Writer η}
    {j : List (Entry η ε)} (h : Exec e s (fresh u) j s' w') :
    Each (WaitsAtMost u.batchSize) [] j := by
  refine h.each fun {j _ w entries _ w'} hledger hsetup hmove => ?_
  have hsetup' : w'.toSetup = u := hmove.toSetup_eq.trans hsetup
  have hbefore : (waiting j).length ≤ u.batchSize := hsetup ▸ hledger.waiting_le
  have hafter : (waiting (j ++ entries)).length ≤ u.batchSize :=
    hsetup' ▸ (hledger.move hmove).waiting_le
  cases hmove with
  | taken => exact ⟨hafter, trivial⟩
  | batch => exact ⟨hafter, trivial⟩
  | refused => exact ⟨hafter, trivial⟩
  | rest =>
    -- A preparation that succeeds changes nothing yet.
    refine ⟨?_, by simpa [WaitsAtMost] using hafter, trivial⟩
    simpa [WaitsAtMost, Call.wrote] using hbefore
  | reset => exact ⟨hafter, trivial⟩

section Sessions

variable {e : Executor σ η ε} {s : σ} {batchSize : Nat} {table : String} {fields : FieldSet}
  {variant : Variant} {operations : List Operation} {h : History σ η ε}

theorem session_findsFull (hrun : session e s batchSize table fields variant operations = .ok h)
    {x : Step η ε} (hx : x ∈ h.steps) {w : Writer η} (hbefore : x.before = w)
    (hfull : w.pending = w.batchSize) : x.FindsFull w.statement w.parameters := by
  subst hbefore
  obtain ⟨earlier, later, hsplit⟩ := List.append_of_mem hx
  obtain ⟨past, hpast, -, hwriter, -⟩ := session_split hrun hsplit
  obtain ⟨_, hopened, -⟩ := session_exec hpast
  obtain ⟨_, _, hpath⟩ := session_performs hrun x hx
  have hpos : 0 < x.before.batchSize := hwriter ▸ hopened.batchSize_pos
  exact hpath.findsFull hfull hpos

theorem session_blocked (hrun : session e s batchSize table fields variant operations = .ok h)
    {earlier between : List (Step η ε)} {x : Step η ε} {parameters : List Value}
    (hsplit : h.steps = earlier ++ x :: between) (hfail : x.FailsFull parameters)
    (hbetween : ∀ z ∈ between,
      z.operation ≠ .reset ∧ ¬z.Writes x.before.statement parameters) :
    h.writer = x.after ∧ x.after.pending = x.after.batchSize ∧ x.after.parameters = parameters ∧
      x.after.statement = x.before.statement := by
  induction between using List.reverseRecOn generalizing operations h with
  | nil =>
    have hx : x ∈ h.steps := by simp [hsplit]
    obtain ⟨_, _, hpath⟩ := session_performs hrun x hx
    obtain ⟨hfull, hparameters⟩ := hpath.full_of_failure hfail
    exact ⟨session_last hrun hsplit, hfull, hparameters,
      congrArg Setup.statement hpath.toSetup_eq⟩
  | append_singleton between z ih =>
    have hlast : h.steps = (earlier ++ x :: between) ++ [z] := by simp [hsplit]
    obtain ⟨past, hpast, hsteps, hwriter, -⟩ := session_split hrun hlast
    obtain ⟨hx, hfull, hparameters, hstatement⟩ :=
      ih hpast hsteps fun y hy => hbetween y (List.mem_append_left _ hy)
    have hbefore : z.before = x.after := hwriter.symm.trans hx
    have hfinds := session_findsFull hrun (by simp [hlast]) hbefore hfull
    rw [hstatement, hparameters] at hfinds
    obtain ⟨hreset, hwrites⟩ := hbetween z (by simp)
    obtain ⟨-, -, hafter⟩ := hfinds.unchanged hreset hwrites
    exact ⟨(session_last hrun hlast).trans (hafter.trans hbefore), hfull, hparameters, hstatement⟩

/-- A full batch that failed blocks the writer. Until it is written or dropped, every step finds the
writer just as the failure has left it, and whatever would write starts with the same execution of
the same statement. A batch never grows beyond its size, not even inside an operation. -/
theorem failed_batch_blocks
    (hrun : session e s batchSize table fields variant operations = .ok h) :
    (∀ earlier x between y later parameters,
      h.steps = earlier ++ x :: (between ++ y :: later) → x.FailsFull parameters →
      (∀ z ∈ between, z.operation ≠ .reset ∧ ¬z.Writes x.before.statement parameters) →
        y.before = x.after ∧ y.FindsFull x.before.statement parameters) ∧
      h.writer.pending ≤ h.writer.batchSize ∧
      ∀ past entry later, h.journal = past ++ entry :: later →
        (waiting (past ++ [entry])).length ≤ h.writer.batchSize := by
  obtain ⟨_, _, hexec⟩ := session_exec hrun
  refine ⟨?_, hexec.ledger.pending_le, fun past entry later hsplit => ?_⟩
  · intro earlier x between y later parameters hsplit hfail hbetween
    have hsteps : h.steps = (earlier ++ x :: between) ++ y :: later := by simp [hsplit]
    obtain ⟨past, hpast, hpastSteps, hwriter, -⟩ := session_split hrun hsteps
    obtain ⟨hx, hfull, hparameters, hstatement⟩ := session_blocked hpast hpastSteps hfail hbetween
    have hbefore : y.before = x.after := hwriter.symm.trans hx
    have hfinds := session_findsFull hrun (by simp [hsteps]) hbefore hfull
    rw [hstatement, hparameters] at hfinds
    exact ⟨hbefore, hfinds⟩
  · exact hexec.each_waitsAtMost.of_split hsplit

end Sessions

/-- A batch of two rows that fails, a row of the wrong length and a flush in between, and the row that
comes when the batch can be written. -/
def blockedBatch : Except (BatchError String) (History Script String String) :=
  session (Script.executor .numbered) ⟨[], [.error "locked", .error "busy", .ok 7]⟩ 2 "users" users
    .insertIgnore
    [.queue [.int 1, .null], .queue [.int 2, .null], .queue [.null], .flush, .queue [.int 3, .null]]

theorem blockedBatch_unblocked : ∃ h, blockedBatch = .ok h ∧ ∃ earlier x between y,
    h.steps = earlier ++ x :: (between ++ [y]) ∧
      x.FailsFull [.int 1, .null, .int 2, .null] ∧ between.length = 2 ∧ y.before = x.after ∧
      y.after.affected = x.after.affected + 7 := by
  have hrun : blockedBatch = .ok _ := rfl
  obtain ⟨hblocks, -⟩ := failed_batch_blocks hrun
  have hblocked := hblocks [_] _ [_, _] _ [] [.int 1, .null, .int 2, .null] rfl
    (Step.failsFull_of_calls rfl)
  rw [List.forall_mem_cons, List.forall_mem_singleton] at hblocked
  obtain ⟨hbefore, hfinds⟩ := hblocked
    ⟨⟨nofun, fun ⟨_, hcall⟩ => nomatch hcall⟩, ⟨nofun, fun ⟨_, hcall⟩ => nomatch hcall⟩⟩
  obtain ⟨haffected, -⟩ := hfinds.counted 7 [] rfl
  exact ⟨_, hrun, [_], _, [_, _], _, rfl, Step.failsFull_of_calls rfl, rfl, hbefore, haffected⟩

end Writer
end RowBatch
