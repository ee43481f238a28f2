import RowBatch.Proofs.Writer.Operation
import RowBatch.Writer.Journal

/-!
A run as a sequence of moves. A move takes one row, sends the waiting rows once, or resets; an
operation makes at most three of them, and what holds after every move holds in every run.
-/

namespace RowBatch
namespace Writer

variable {σ η ε : Type}

/-- A move of the writer with its entries in the journal. -/
inductive Move (e : Executor σ η ε) : σ → Writer η → List (Entry η ε) → σ → Writer η → Prop
  | taken {s w row} (hlen : row.length = w.arity) (hroom : w.pending ≠ w.batchSize) :
      Move e s w [.accepted row] s (w.holding row)
  | batch {s w s' answer} (hfull : w.pending = w.batchSize)
      (hexec : e.execute s w.statement w.parameters = (s', answer)) :
      Move e s w [.called (.execute w.statement w.parameters answer)] s' (w.settled answer)
  | refused {s w s' cause} (hsome : w.pending ≠ 0) (hroom : w.pending ≠ w.batchSize)
      (hprep : e.prepareTransient s (w.template.text w.pending) = (s', .error cause)) :
      Move e s w [.called (.prepareTransient (w.template.text w.pending) (.error cause))] s' w
  | rest {s w s' s'' statement answer} (hsome : w.pending ≠ 0) (hroom : w.pending ≠ w.batchSize)
      (hprep : e.prepareTransient s (w.template.text w.pending) = (s', .ok statement))
      (hexec : e.execute s' statement w.parameters = (s'', answer)) :
      Move e s w
        [.called (.prepareTransient (w.template.text w.pending) (.ok statement)),
          .called (.execute statement w.parameters answer)] s'' (w.settled answer)
  | reset {s w} : Move e s w [.reset] s w.reset

theorem Move.toSetup_eq {e : Executor σ η ε} {s s' : σ} {w w' : Writer η}
    {entries : List (Entry η ε)} (h : Move e s w entries s' w') : w'.toSetup = w.toSetup := by
  cases h with
  | taken => rfl
  | batch => exact settled_toSetup _ _
  | refused => rfl
  | rest => exact settled_toSetup _ _
  | reset => rfl

/-- Moves one after the other, with their journal. -/
inductive Exec (e : Executor σ η ε) (s : σ) (w : Writer η) :
    List (Entry η ε) → σ → Writer η → Prop
  | refl : Exec e s w [] s w
  | tail {j s' w' entries s'' w''} (hexec : Exec e s w j s' w')
      (hmove : Move e s' w' entries s'' w'') : Exec e s w (j ++ entries) s'' w''

namespace Exec

variable {e : Executor σ η ε} {s s' s'' : σ} {w w' w'' : Writer η} {i j : List (Entry η ε)}

theorem single (hmove : Move e s w j s' w') : Exec e s w j s' w' := by
  simpa using Exec.tail .refl hmove

theorem trans (hi : Exec e s w i s' w') (hj : Exec e s' w' j s'' w'') :
    Exec e s w (i ++ j) s'' w'' := by
  induction hj with
  | refl => simpa using hi
  | tail _ hmove ih => simpa using Exec.tail ih hmove

theorem toSetup_eq (h : Exec e s w j s' w') : w'.toSetup = w.toSetup := by
  induction h with
  | refl => rfl
  | tail _ hmove ih => exact hmove.toSetup_eq.trans ih

end Exec

variable {e : Executor σ η ε} {s s' : σ} {w w' : Writer η}

theorem Accepts.moves {row : Row} {wrote : Bool} {calls : List (Call η ε)}
    {result : Except (BatchError ε) Bool} (hlen : row.length = w.arity)
    (hroom : w.pending ≠ w.batchSize) (h : Accepts e s w row wrote calls result s' w') :
    Exec e s w (.accepted row :: calls.map .called) s' w' := by
  have htaken : Exec e s w [.accepted row] s (w.holding row) := .single (.taken hlen hroom)
  cases h with
  | waits => exact htaken
  | fills hfull hexec => exact htaken.tail (.batch hfull hexec)

/-- An operation makes the moves that its entries tell. -/
theorem Performs.moves {operation : Operation} {calls : List (Call η ε)}
    {result : Except (BatchError ε) (Option Bool)} (hpos : 0 < w.batchSize)
    (h : Performs e s w operation calls result s' w') :
    Exec e s w (Step.entries ⟨operation, w, calls, result, w'⟩) s' w' := by
  cases h with
  | mismatched hlen => simpa [Step.entries, Step.accepted?, hlen] using Exec.refl
  | blocked hlen hfull hexec =>
    simpa [Step.entries, Step.accepted?, hfull, Call.wrote] using Exec.single (.batch hfull hexec)
  | @retried _ _ count _ _ _ _ hlen hfull hexec hrow =>
    -- After the retry nothing waits, and a batch has room for at least one row.
    have hretry := Exec.single (Move.batch hfull hexec)
    have hrest := Accepts.moves (w := w.written count) hlen (Nat.ne_of_lt hpos) hrow
    simpa [Step.entries, Step.accepted?, Step.retries, hlen, hfull, Call.wrote] using
      hretry.trans hrest
  | queued hlen hroom hrow =>
    have hrest := hrow.moves hlen hroom
    simpa [Step.entries, Step.accepted?, Step.retries, hlen, hroom] using hrest
  | idle => exact .refl
  | flushedBatch _ hfull hexec => exact .single (.batch hfull hexec)
  | refused hsome hroom hprep => exact .single (.refused hsome hroom hprep)
  | flushedRest hsome hroom hprep hexec => exact .single (.rest hsome hroom hprep hexec)
  | reset => exact .single .reset

end Writer
end RowBatch
