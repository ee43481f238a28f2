import RowBatch.Proofs.Writer.Move

/-!
The books of a writer. Its buffer and its counters are what the journal of the run says: the buffer
holds the waiting rows, and the counters sum up what came after the last reset.
-/

namespace RowBatch
namespace Writer

open Journal

variable {σ η ε : Type}

/-- The writer agrees with a journal. -/
structure Ledger (j : List (Entry η ε)) (w : Writer η) : Prop where
  width_eq : ∀ row ∈ waiting j, row.length = w.arity
  parameters_eq : w.parameters = (waiting j).flatten
  pending_eq : w.pending = (waiting j).length
  pending_le : w.pending ≤ w.batchSize
  total_eq : w.total = (accepted (recent j)).length
  affected_eq : w.affected = UInt64.ofNat (counted (recent j))
  balanced : carried w.arity (recent j) ++ waiting j = accepted (recent j)

theorem arity_pos (u : Setup η) : 0 < u.arity := u.template.fields.arity_pos

namespace Ledger

variable {j : List (Entry η ε)} {w : Writer η}

theorem fresh (u : Setup η) : Ledger ([] : List (Entry η ε)) (fresh u) where
  width_eq := by simp
  parameters_eq := by simp
  pending_eq := by simp
  pending_le := by simp
  total_eq := by simp
  affected_eq := by simp
  balanced := by simp

theorem slices_parameters (h : Ledger j w) : Row.slices w.arity w.parameters = waiting j := by
  rw [h.parameters_eq]
  exact Row.slices_flatten (arity_pos _) h.width_eq

theorem parameters_length (h : Ledger j w) : w.parameters.length = w.pending * w.arity := by
  rw [h.parameters_eq, Row.length_flatten h.width_eq, h.pending_eq]

theorem total_eq_add (h : Ledger j w) :
    w.total = (carried w.arity (recent j)).length + w.pending := by
  rw [h.total_eq, ← h.balanced, List.length_append, h.pending_eq]

theorem pending_le_total (h : Ledger j w) : w.pending ≤ w.total := by
  rw [h.total_eq_add]
  exact Nat.le_add_left _ _

theorem taken (h : Ledger j w) {row : Row} (hlen : row.length = w.arity)
    (hroom : w.pending ≠ w.batchSize) : Ledger (j ++ [.accepted row]) (w.holding row) where
  width_eq := by
    intro r hr
    simp only [waiting_append, List.foldl_cons, List.foldl_nil, hold, List.mem_append,
      List.mem_singleton] at hr
    rcases hr with hr | rfl
    · exact h.width_eq r hr
    · exact hlen
  parameters_eq := by simp [h.parameters_eq]
  pending_eq := by simp [h.pending_eq]
  pending_le := Nat.lt_of_le_of_ne h.pending_le hroom
  total_eq := by simp [h.total_eq]
  affected_eq := by simp [h.affected_eq]
  balanced := by simp [← h.balanced]

theorem called (h : Ledger j w) {call : Call η ε} (hcall : call.wrote = false) :
    Ledger (j ++ [.called call]) w where
  width_eq := by simpa [hcall] using h.width_eq
  parameters_eq := by simpa [hcall] using h.parameters_eq
  pending_eq := by simpa [hcall] using h.pending_eq
  pending_le := h.pending_le
  total_eq := by simpa using h.total_eq
  affected_eq := by simpa [Call.count_eq_zero hcall] using h.affected_eq
  balanced := by simpa [hcall, Call.carried_eq_nil hcall] using h.balanced

theorem wrote (h : Ledger j w) (statement : η) (count : UInt64) :
    Ledger (j ++ [.called (.execute statement w.parameters (.ok count))]) (w.written count) where
  width_eq := by simp [Call.wrote]
  parameters_eq := by simp [Call.wrote]
  pending_eq := by simp [Call.wrote]
  pending_le := Nat.zero_le _
  total_eq := by simpa using h.total_eq
  affected_eq := by simp [h.affected_eq, Call.count, UInt64.ofNat_add]
  balanced := by simpa [Call.wrote, Call.carried, h.slices_parameters] using h.balanced

theorem executed (h : Ledger j w) (statement : η) (answer : Except ε UInt64) :
    Ledger (j ++ [.called (.execute statement w.parameters answer)]) (w.settled answer) := by
  cases answer with
  | error cause => exact h.called rfl
  | ok count => exact h.wrote statement count

theorem reset (w : Writer η) (j : List (Entry η ε)) : Ledger (j ++ [.reset]) w.reset :=
  ⟨by simp, by simp, by simp, by simp, by simp, by simp, by simp⟩

theorem move {e : Executor σ η ε} {s s' : σ} {w' : Writer η} {entries : List (Entry η ε)}
    (h : Ledger j w) (hmove : Move e s w entries s' w') : Ledger (j ++ entries) w' := by
  cases hmove with
  | taken hlen hroom => exact h.taken hlen hroom
  | batch _ _ => exact h.executed _ _
  | refused _ _ _ => exact h.called rfl
  | rest _ _ _ _ =>
    -- The preparation and the execution are entered one after the other.
    rw [List.append_cons]
    exact (h.called rfl).executed _ _
  | reset => exact .reset w j

end Ledger

/-- The books are right at every moment. -/
theorem Exec.ledger {e : Executor σ η ε} {s s' : σ} {u : Setup η} {w' : Writer η}
    {j : List (Entry η ε)} (h : Exec e s (fresh u) j s' w') : Ledger j w' := by
  induction h with
  | refl => exact .fresh u
  | tail _ hmove ih => exact ih.move hmove

/-- What every entry of a move satisfies, if the books were right before the move, is satisfied by
every entry of a run. -/
theorem Exec.each {e : Executor σ η ε} {s s' : σ} {u : Setup η} {w' : Writer η}
    {j : List (Entry η ε)} {P : List (Entry η ε) → Entry η ε → Prop}
    (h : Exec e s (Writer.fresh u) j s' w')
    (hmoves : ∀ {j s w entries s' w'}, Ledger j w → w.toSetup = u → Move e s w entries s' w' →
      Each P j entries) : Each P [] j := by
  induction h with
  | refl => trivial
  | tail hexec hmove ih =>
    rw [each_append]
    exact ⟨ih, hmoves hexec.ledger hexec.toSetup_eq hmove⟩

end Writer
end RowBatch
