import RowBatch.Executor
import RowBatch.Proofs.Writer.Ledger
import RowBatch.Proofs.Writer.Session

/-!
The counters of a writer sum up the calls since the last reset. What fails leaves them alone.
-/

namespace RowBatch
namespace Writer

open Journal

variable {σ η ε : Type} {e : Executor σ η ε} {s s' : σ}

def counters (w : Writer η) : Nat × Nat × Nat × UInt64 :=
  (w.total, w.flushed, w.pending, w.affected)

theorem settled_eq_self {w : Writer η} {statement : η} {parameters : List Value}
    {answer : Except ε UInt64} (h : (Call.execute statement parameters answer).wrote = false) :
    w.settled answer = w := by
  cases answer with
  | error cause => rfl
  | ok count => exact nomatch h

theorem Performs.counters_eq {w w' : Writer η} {operation : Operation} {calls : List (Call η ε)}
    {result : Except (BatchError ε) (Option Bool)}
    (h : Performs e s w operation calls result s' w') (hreset : operation ≠ .reset)
    (hrow : Step.accepted? ⟨operation, w, calls, result, w'⟩ = none)
    (hcalls : ∀ call ∈ calls, call.wrote = false) : w'.counters = w.counters := by
  cases h with
  | mismatched => rfl
  | blocked => rfl
  | retried => exact nomatch hcalls _ List.mem_cons_self
  | queued hlen hroom => simp [Step.accepted?, hlen, hroom] at hrow
  | idle => rfl
  | flushedBatch =>
    rw [settled_eq_self (hcalls _ List.mem_cons_self)]
  | refused => rfl
  | flushedRest =>
    rw [settled_eq_self (hcalls _ (List.mem_cons_of_mem _ List.mem_cons_self))]
  | reset => contradiction

/-- The counters are an exact account of the rows and the calls since the last reset. -/
theorem counters_exact {batchSize : Nat} {table : String} {fields : FieldSet}
    {variant : Variant} {operations : List Operation} {h : History σ η ε}
    (hrun : session e s batchSize table fields variant operations = .ok h) :
    h.writer.total = (accepted (recent h.journal)).length ∧
      h.writer.flushed = ((calls (recent h.journal)).map fun call =>
        (call.carried h.writer.arity).length).sum ∧
      carried h.writer.arity (recent h.journal) <+: accepted (recent h.journal) ∧
      h.writer.pending = ((accepted (recent h.journal)).drop
        (carried h.writer.arity (recent h.journal)).length).length ∧
      h.writer.pending ≤ h.writer.total ∧
      h.writer.pending + h.writer.flushed = h.writer.total ∧
      (h.writer.total < UInt64.size → h.writer.reportedTotal.toNat = h.writer.total ∧
        h.writer.reportedFlushed.toNat = h.writer.flushed) ∧
      (counted (recent h.journal) < UInt64.size →
        h.writer.affected.toNat = counted (recent h.journal)) ∧
      ∀ x ∈ h.steps, x.operation ≠ .reset → x.accepted? = none →
        (∀ call ∈ x.calls, call.wrote = false) → x.after.counters = x.before.counters := by
  obtain ⟨s₀, _, hexec⟩ := session_exec hrun
  have hledger := hexec.ledger
  have htotal := hledger.total_eq_add
  have hle := hledger.pending_le_total
  refine ⟨hledger.total_eq, ?_, ?_, ?_, hle, ?_, fun hbound => ?_, ?_, ?_⟩
  · rw [flushed, htotal, Nat.add_sub_cancel, carried, List.length_flatMap]
  · exact ⟨waiting h.journal, hledger.balanced⟩
  · rw [← hledger.balanced, List.drop_left, hledger.pending_eq]
  · rw [flushed]
    omega
  · exact ⟨toNat_reportedTotal hbound, toNat_reportedFlushed hbound hle⟩
  · intro hsum
    rw [hledger.affected_eq, UInt64.toNat_ofNat_of_lt' hsum]
  · intro x hx hreset hrow hcalls
    obtain ⟨_, _, hpath⟩ := session_performs hrun x hx
    exact hpath.counters_eq hreset hrow hcalls

/-- A refused preparation, a row of the wrong length and two failed executions. -/
def failures : Except (BatchError String) (History Script String String) :=
  session (Script.executor .numbered)
    ⟨[.ok (), .error "no statement"], [.error "locked", .ok 7, .error "locked", .ok 5]⟩ 2 "users"
    users .insertIgnore
    [.queue [.int 1, .null], .flush, .queue [], .queue [.int 2, .null], .queue [.int 3, .null],
      .flush, .flush, .queue [.int 4, .null]]

theorem failures_not_counted : ∃ h, failures = .ok h ∧ h.writer.counters = (4, 3, 1, 12) ∧
    h.writer.pending + h.writer.flushed = h.writer.total ∧
    h.writer.reportedFlushed.toNat = h.writer.flushed ∧
    counted (recent h.journal) < UInt64.size ∧
    h.writer.affected.toNat = counted (recent h.journal) := by
  have hrun : failures = .ok _ := rfl
  obtain ⟨_, _, _, _, _, hsum, hreported, haffected, _⟩ := counters_exact hrun
  exact ⟨_, hrun, by decide, hsum, (hreported (by decide)).2, by decide, haffected (by decide)⟩

end Writer
end RowBatch
