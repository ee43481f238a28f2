import RowBatch.Executor
import RowBatch.Proofs.Writer.Ledger
import RowBatch.Proofs.Writer.Session

/-!
No row is lost, written twice or written out of turn. Counting from the last reset, the rows that
executions wrote and the rows that still wait are the accepted ones; and an execution, failed or not,
sends just the accepted rows that no earlier one wrote.
-/

namespace RowBatch
namespace Writer

open Journal

variable {σ η ε : Type} {e : Executor σ η ε} {s s' : σ} {w' : Writer η}

/-- Since the last reset, the rows that executions wrote and the rows in `parameters` are the
accepted ones, each once and in their order. -/
def Journal.Accounted (width : Nat) (j : List (Entry η ε)) (parameters : List Value) : Prop :=
  carried width (recent j) ++ Row.slices width parameters = accepted (recent j)

theorem Ledger.accounted {j : List (Entry η ε)} {w : Writer η} (h : Ledger j w) :
    Accounted w.arity j w.parameters := by
  rw [Accounted, h.slices_parameters]
  exact h.balanced

@[simp] def SendsRest (width : Nat) (past : List (Entry η ε)) : Entry η ε → Prop
  | .called (.execute _ parameters _) => Accounted width past parameters
  | _ => True

theorem Exec.each_sendsRest {u : Setup η} {j : List (Entry η ε)}
    (h : Exec e s (fresh u) j s' w') : Each (SendsRest u.arity) [] j := by
  refine h.each fun {j _ w _ _ _} hledger hsetup hmove => ?_
  have hrest : Accounted u.arity j w.parameters := hsetup ▸ hledger.accounted
  cases hmove with
  | taken => simp
  | batch => simpa using hrest
  | refused => simp
  | rest => simpa [Accounted, Call.carried] using hrest
  | reset => simp

/-- Nothing is lost, doubled or reordered, whatever the executor answers: at the end of a run, before
each of its steps, a reset among them, and at every execution, failed or not. The state `s` is any
state of the executor, also one that another writer left. -/
theorem session_accounted {batchSize : Nat} {table : String} {fields : FieldSet}
    {variant : Variant} {operations : List Operation} {h : History σ η ε}
    (hrun : session e s batchSize table fields variant operations = .ok h) :
    Accounted h.writer.arity h.journal h.writer.parameters ∧
      (∀ earlier x later, h.steps = earlier ++ x :: later →
        Accounted h.writer.arity (earlier.flatMap Step.entries) x.before.parameters) ∧
      ∀ past statement parameters answer later,
        h.journal = past ++ .called (.execute statement parameters answer) :: later →
        Accounted h.writer.arity past parameters := by
  obtain ⟨s₀, _, hexec⟩ := session_exec hrun
  refine ⟨hexec.ledger.accounted, ?_, ?_⟩
  · intro earlier x later hsplit
    obtain ⟨past, hpast, rfl, hwriter, hsetup⟩ := session_split hrun hsplit
    obtain ⟨s₁, _, hbefore⟩ := session_exec hpast
    have hbalance := hbefore.ledger.accounted
    rw [← hsetup, ← hwriter]
    exact hbalance
  · intro past statement parameters answer later hsplit
    exact hexec.each_sendsRest.of_split hsplit

/-- A full batch that keeps failing is dropped by a reset; the next one fails and is tried again. -/
def stuckBatch : Except (BatchError String) (History Script String String) :=
  session (Script.executor .numbered)
    ⟨[], [.error "locked", .error "locked", .error "busy", .ok 2]⟩ 2 "users" users .insertIgnore
    [.queue [.int 1, .null], .queue [.int 2, .null], .queue [.int 3, .null], .reset,
      .queue [.int 4, .null], .queue [.int 5, .null], .queue [.null], .queue [.int 6, .null]]

theorem stuckBatch_conserved : ∃ h, stuckBatch = .ok h ∧
    accepted (recent h.journal) = [[.int 4, .null], [.int 5, .null], [.int 6, .null]] ∧
    Accounted h.writer.arity h.journal h.writer.parameters := by
  have hrun : stuckBatch = .ok _ := rfl
  exact ⟨_, hrun, by decide, (session_accounted hrun).1⟩

end Writer
end RowBatch
