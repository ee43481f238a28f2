import Mathlib.Data.List.Forall2
import RowBatch.Proofs.Writer.Counters

/-!
Two writers side by side. When their executors answer corresponding requests alike, the writers
stay in step: they answer alike, count alike and make corresponding calls, operation by operation.
-/

namespace RowBatch

variable {σ₁ η₁ σ₂ η₂ ε : Type}

/-- What of a first run corresponds to what of a second one: the states of the executors, the texts
of statements, and statements prepared from corresponding texts. Values are translated. -/
structure Correspondence (σ₁ η₁ σ₂ η₂ : Type) where
  state : σ₁ → σ₂ → Prop
  text : String → String → Prop
  statement : String → String → η₁ → η₂ → Prop
  value : Value → Value

inductive Agree {α β : Type} (related : α → β → Prop) : Except ε α → Except ε β → Prop
  | error (cause : ε) : Agree related (.error cause) (.error cause)
  | ok {a b} (h : related a b) : Agree related (.ok a) (.ok b)

theorem Agree.related {α β : Type} {related : α → β → Prop} {x : Except ε α} {y : Except ε β}
    {a : α} {b : β} (h : Agree related x y) (hx : x = .ok a) (hy : y = .ok b) : related a b := by
  subst hx hy
  cases h with
  | ok h => exact h

namespace Correspondence

/-- In corresponding states, corresponding requests are answered alike, and the states go on to
correspond. -/
structure OfExecutors (c : Correspondence σ₁ η₁ σ₂ η₂) (e₁ : Executor σ₁ η₁ ε)
    (e₂ : Executor σ₂ η₂ ε) : Prop where
  prepareTransient : ∀ {s₁ s₂ text₁ text₂}, c.state s₁ s₂ → c.text text₁ text₂ →
    c.state (e₁.prepareTransient s₁ text₁).1 (e₂.prepareTransient s₂ text₂).1 ∧
      Agree (c.statement text₁ text₂) (e₁.prepareTransient s₁ text₁).2
        (e₂.prepareTransient s₂ text₂).2
  execute : ∀ {s₁ s₂ text₁ text₂ x₁ x₂} (parameters : List Value), c.state s₁ s₂ →
    c.text text₁ text₂ → c.statement text₁ text₂ x₁ x₂ →
    c.state (e₁.execute s₁ x₁ parameters).1 (e₂.execute s₂ x₂ (parameters.map c.value)).1 ∧
      (e₁.execute s₁ x₁ parameters).2 = (e₂.execute s₂ x₂ (parameters.map c.value)).2

/-- Corresponding calls are of one kind and have the same answer. No call that prepares a full batch
corresponds to another. -/
inductive OfCalls (c : Correspondence σ₁ η₁ σ₂ η₂) : Call η₁ ε → Call η₂ ε → Prop
  | prepareTransient {text₁ text₂ answer₁ answer₂} (htext : c.text text₁ text₂)
      (hanswer : Agree (c.statement text₁ text₂) answer₁ answer₂) :
      OfCalls c (.prepareTransient text₁ answer₁) (.prepareTransient text₂ answer₂)
  | execute {text₁ text₂ x₁ x₂ parameters answer} (htext : c.text text₁ text₂)
      (hstatement : c.statement text₁ text₂ x₁ x₂) :
      OfCalls c (.execute x₁ parameters answer) (.execute x₂ (parameters.map c.value) answer)

structure OfWriters (c : Correspondence σ₁ η₁ σ₂ η₂) (w₁ : Writer η₁) (w₂ : Writer η₂) : Prop where
  arity_eq : w₁.arity = w₂.arity
  batchSize_eq : w₁.batchSize = w₂.batchSize
  text : ∀ rows, c.text (w₁.template.text rows) (w₂.template.text rows)
  statement : c.statement (w₁.template.text w₁.batchSize) (w₂.template.text w₁.batchSize)
    w₁.statement w₂.statement
  parameters_eq : w₂.parameters = w₁.parameters.map c.value
  pending_eq : w₁.pending = w₂.pending
  total_eq : w₁.total = w₂.total
  affected_eq : w₁.affected = w₂.affected

structure OfOutcomes {α : Type} (c : Correspondence σ₁ η₁ σ₂ η₂)
    (o₁ : Writer.Outcome (σ₁ × Writer η₁) ε α) (o₂ : Writer.Outcome (σ₂ × Writer η₂) ε α) :
    Prop where
  state : c.state o₁.state.1 o₂.state.1
  writers : c.OfWriters o₁.state.2 o₂.state.2
  result_eq : o₁.result = o₂.result

variable {c : Correspondence σ₁ η₁ σ₂ η₂} {e₁ : Executor σ₁ η₁ ε} {e₂ : Executor σ₂ η₂ ε}
  {s₁ : σ₁} {s₂ : σ₂} {w₁ : Writer η₁} {w₂ : Writer η₂}

namespace OfExecutors

variable {text₁ text₂ : String} (he : c.OfExecutors e₁ e₂) (hs : c.state s₁ s₂)
  (htext : c.text text₁ text₂)
include he hs htext

theorem exists_prepareTransient : ∃ s₁' s₂' prepared₁ prepared₂,
    e₁.prepareTransient s₁ text₁ = (s₁', prepared₁) ∧
      e₂.prepareTransient s₂ text₂ = (s₂', prepared₂) ∧ c.state s₁' s₂' ∧
      Agree (c.statement text₁ text₂) prepared₁ prepared₂ :=
  ⟨_, _, _, _, rfl, rfl, he.prepareTransient hs htext⟩

theorem exists_execute {x₁ : η₁} {x₂ : η₂} (hstatement : c.statement text₁ text₂ x₁ x₂)
    (parameters : List Value) : ∃ s₁' s₂' answer,
    e₁.execute s₁ x₁ parameters = (s₁', answer) ∧
      e₂.execute s₂ x₂ (parameters.map c.value) = (s₂', answer) ∧ c.state s₁' s₂' := by
  obtain ⟨hs', hanswer⟩ := he.execute parameters hs htext hstatement
  exact ⟨_, _, _, rfl, Prod.ext rfl hanswer.symm, hs'⟩

end OfExecutors

namespace OfWriters

theorem fresh {u₁ : Setup η₁} {u₂ : Setup η₂} (harity : u₁.arity = u₂.arity)
    (hsize : u₁.batchSize = u₂.batchSize)
    (htext : ∀ rows, c.text (u₁.template.text rows) (u₂.template.text rows))
    (hstatement : c.statement (u₁.template.text u₁.batchSize) (u₂.template.text u₁.batchSize)
      u₁.statement u₂.statement) : c.OfWriters (Writer.fresh u₁) (Writer.fresh u₂) where
  arity_eq := harity
  batchSize_eq := hsize
  text := htext
  statement := hstatement
  parameters_eq := rfl
  pending_eq := rfl
  total_eq := rfl
  affected_eq := rfl

theorem counters_eq (hw : c.OfWriters w₁ w₂) : w₁.counters = w₂.counters := by
  simp only [Writer.counters, Writer.flushed, hw.total_eq, hw.pending_eq, hw.affected_eq]

theorem written (hw : c.OfWriters w₁ w₂) (count : UInt64) :
    c.OfWriters (w₁.written count) (w₂.written count) where
  arity_eq := hw.arity_eq
  batchSize_eq := hw.batchSize_eq
  text := hw.text
  statement := hw.statement
  parameters_eq := rfl
  pending_eq := rfl
  total_eq := hw.total_eq
  affected_eq := congrArg (· + count) hw.affected_eq

theorem holding (hw : c.OfWriters w₁ w₂) (row : Row) :
    c.OfWriters (w₁.holding row) (w₂.holding (row.map c.value)) where
  arity_eq := hw.arity_eq
  batchSize_eq := hw.batchSize_eq
  text := hw.text
  statement := hw.statement
  parameters_eq := by simp [hw.parameters_eq]
  pending_eq := congrArg (· + 1) hw.pending_eq
  total_eq := congrArg (· + 1) hw.total_eq
  affected_eq := hw.affected_eq

theorem reset (hw : c.OfWriters w₁ w₂) : c.OfWriters w₁.reset w₂.reset where
  arity_eq := hw.arity_eq
  batchSize_eq := hw.batchSize_eq
  text := hw.text
  statement := hw.statement
  parameters_eq := rfl
  pending_eq := rfl
  total_eq := rfl
  affected_eq := rfl

end OfWriters

section Operations

variable {α β : Type} (he : c.OfExecutors e₁ e₂) (hs : c.state s₁ s₂) (hw : c.OfWriters w₁ w₂)

theorem OfOutcomes.map {o₁ : Writer.Outcome (σ₁ × Writer η₁) ε α}
    {o₂ : Writer.Outcome (σ₂ × Writer η₂) ε α} (h : c.OfOutcomes o₁ o₂) (f : α → β) :
    c.OfOutcomes (o₁.map f) (o₂.map f) :=
  ⟨h.state, h.writers, congrArg (Except.map f) h.result_eq⟩

include he hs hw

theorem executeBatch :
    c.OfOutcomes (Writer.executeBatch e₁ s₁ w₁) (Writer.executeBatch e₂ s₂ w₂) := by
  obtain ⟨s₁', s₂', answer, h₁, h₂, hs'⟩ :=
    he.exists_execute hs (hw.text _) hw.statement w₁.parameters
  simp only [Writer.executeBatch, hw.parameters_eq, h₁, h₂]
  cases answer with
  | error cause => exact ⟨hs', hw, rfl⟩
  | ok count => exact ⟨hs', hw.written count, rfl⟩

theorem accept (row : Row) (wrote : Bool) :
    c.OfOutcomes (Writer.accept e₁ s₁ w₁ row wrote)
      (Writer.accept e₂ s₂ w₂ (row.map c.value) wrote) := by
  have hrow := hw.holding row
  unfold Writer.accept
  simp only [hrow.pending_eq, hrow.batchSize_eq]
  split
  · exact (executeBatch he hs hrow).map _
  · exact ⟨hs, hrow, rfl⟩

theorem executeRest : c.OfOutcomes (Writer.executeRest e₁ s₁ w₁) (Writer.executeRest e₂ s₂ w₂) := by
  have htext := hw.text w₁.pending
  obtain ⟨s₁', s₂', prepared₁, prepared₂, h₁, h₂, hs', hprepared⟩ :=
    he.exists_prepareTransient hs htext
  simp only [Writer.executeRest, ← hw.pending_eq, hw.parameters_eq, h₁, h₂]
  cases hprepared with
  | error cause => exact ⟨hs', hw, rfl⟩
  | ok hstatement =>
    obtain ⟨s₁'', s₂'', answer, h₁, h₂, hs''⟩ :=
      he.exists_execute hs' htext hstatement w₁.parameters
    simp only [h₁, h₂]
    cases answer with
    | error cause => exact ⟨hs'', hw, rfl⟩
    | ok count => exact ⟨hs'', hw.written count, rfl⟩

theorem queue (row : Row) :
    c.OfOutcomes (Writer.queue e₁ s₁ w₁ row) (Writer.queue e₂ s₂ w₂ (row.map c.value)) := by
  unfold Writer.queue
  simp only [List.length_map, hw.arity_eq, hw.pending_eq, hw.batchSize_eq]
  split
  · exact ⟨hs, hw, rfl⟩
  · split
    · have hretry := executeBatch he hs hw
      rw [hretry.result_eq]
      split
      · exact ⟨hretry.state, hretry.writers, rfl⟩
      · have hrest := accept he hretry.state hretry.writers row true
        exact ⟨hrest.state, hrest.writers, hrest.result_eq⟩
    · exact accept he hs hw row false

theorem flush : c.OfOutcomes (Writer.flush e₁ s₁ w₁) (Writer.flush e₂ s₂ w₂) := by
  unfold Writer.flush
  simp only [hw.pending_eq, hw.batchSize_eq]
  split
  · exact ⟨hs, hw, rfl⟩
  · split
    · exact executeBatch he hs hw
    · exact executeRest he hs hw

end Operations

def operation (c : Correspondence σ₁ η₁ σ₂ η₂) : Writer.Operation → Writer.Operation
  | .queue row => .queue (row.map c.value)
  | .flush => .flush
  | .reset => .reset

theorem perform (he : c.OfExecutors e₁ e₂) (hs : c.state s₁ s₂) (hw : c.OfWriters w₁ w₂)
    (operation : Writer.Operation) :
    c.OfOutcomes (Writer.perform e₁ s₁ w₁ operation)
      (Writer.perform e₂ s₂ w₂ (c.operation operation)) := by
  cases operation with
  | queue row => exact (queue he hs hw row).map some
  | flush => exact (flush he hs hw).map fun _ => none
  | reset => exact ⟨hs, hw.reset, rfl⟩

def recorded (c : Correspondence σ₁ η₁ σ₂ η₂) (ε : Type) :
    Correspondence (σ₁ × List (Call η₁ ε)) η₁ (σ₂ × List (Call η₂ ε)) η₂ where
  state := fun p q => c.state p.1 q.1 ∧ List.Forall₂ c.OfCalls p.2 q.2
  text := c.text
  statement := c.statement
  value := c.value

theorem OfExecutors.recorded (he : c.OfExecutors e₁ e₂) :
    (c.recorded ε).OfExecutors e₁.recorded e₂.recorded where
  prepareTransient := by
    rintro ⟨s₁, calls₁⟩ ⟨s₂, calls₂⟩ text₁ text₂ ⟨hs, hcalls⟩ htext
    obtain ⟨hs', hanswer⟩ := he.prepareTransient hs htext
    exact ⟨⟨hs', .cons (.prepareTransient htext hanswer) hcalls⟩, hanswer⟩
  execute := by
    rintro ⟨s₁, calls₁⟩ ⟨s₂, calls₂⟩ text₁ text₂ x₁ x₂ parameters ⟨hs, hcalls⟩ htext hstatement
    obtain ⟨hs', hanswer⟩ := he.execute parameters hs htext hstatement
    refine ⟨⟨hs', .cons ?_ hcalls⟩, hanswer⟩
    simp only [hanswer]
    exact .execute htext hstatement

theorem ofWriters_recorded : (c.recorded ε).OfWriters w₁ w₂ ↔ c.OfWriters w₁ w₂ :=
  ⟨fun ⟨h₁, h₂, h₃, h₄, h₅, h₆, h₇, h₈⟩ => ⟨h₁, h₂, h₃, h₄, h₅, h₆, h₇, h₈⟩,
    fun ⟨h₁, h₂, h₃, h₄, h₅, h₆, h₇, h₈⟩ => ⟨h₁, h₂, h₃, h₄, h₅, h₆, h₇, h₈⟩⟩

/-- Steps with the same answer, the same counters behind them and corresponding calls. -/
structure OfSteps (c : Correspondence σ₁ η₁ σ₂ η₂) (x₁ : Writer.Step η₁ ε) (x₂ : Writer.Step η₂ ε) :
    Prop where
  operation_eq : x₂.operation = c.operation x₁.operation
  calls : List.Forall₂ c.OfCalls x₁.calls x₂.calls
  result_eq : x₁.result = x₂.result
  counters_eq : x₁.after.counters = x₂.after.counters

theorem OfSteps.flatMap_calls {steps₁ : List (Writer.Step η₁ ε)} {steps₂ : List (Writer.Step η₂ ε)}
    (h : List.Forall₂ c.OfSteps steps₁ steps₂) :
    List.Forall₂ c.OfCalls (steps₁.flatMap Writer.Step.calls) (steps₂.flatMap Writer.Step.calls) :=
  List.rel_flatMap h fun _ _ hx => hx.calls

theorem OfCalls.prepare_not_mem {calls₁ : List (Call η₁ ε)} {calls₂ : List (Call η₂ ε)}
    (h : List.Forall₂ c.OfCalls calls₁ calls₂) :
    (∀ text answer, .prepare text answer ∉ calls₁) ∧
      ∀ text answer, .prepare text answer ∉ calls₂ := by
  induction h with
  | nil => simp
  | cons hcall _ ih => cases hcall <;> simpa using ih

variable {h₁ : Writer.History σ₁ η₁ ε} {h₂ : Writer.History σ₂ η₂ ε}

theorem advance (he : c.OfExecutors e₁ e₂) (hs : c.state h₁.state h₂.state)
    (hw : c.OfWriters h₁.writer h₂.writer) (operation : Writer.Operation) :
    ∃ x₁ x₂, (h₁.advance e₁ operation).steps = h₁.steps ++ [x₁] ∧
      (h₂.advance e₂ (c.operation operation)).steps = h₂.steps ++ [x₂] ∧ c.OfSteps x₁ x₂ ∧
      c.state (h₁.advance e₁ operation).state (h₂.advance e₂ (c.operation operation)).state ∧
      c.OfWriters (h₁.advance e₁ operation).writer
        (h₂.advance e₂ (c.operation operation)).writer := by
  have hstart : (c.recorded ε).state (h₁.state, []) (h₂.state, []) := ⟨hs, .nil⟩
  have hout := perform he.recorded hstart (ofWriters_recorded.mpr hw) operation
  have hwriters := ofWriters_recorded.mp hout.writers
  have hcalls := List.forall₂_reverse_iff.mpr hout.state.2
  exact ⟨_, _, rfl, rfl, ⟨rfl, hcalls, hout.result_eq, hwriters.counters_eq⟩, hout.state.1,
    hwriters⟩

theorem run (he : c.OfExecutors e₁ e₂) (hs : c.state h₁.state h₂.state)
    (hw : c.OfWriters h₁.writer h₂.writer) (operations : List Writer.Operation) :
    ∃ steps₁ steps₂, (operations.foldl (Writer.History.advance e₁) h₁).steps = h₁.steps ++ steps₁ ∧
      ((operations.map c.operation).foldl (Writer.History.advance e₂) h₂).steps =
        h₂.steps ++ steps₂ ∧ List.Forall₂ c.OfSteps steps₁ steps₂ := by
  induction operations generalizing h₁ h₂ with
  | nil => exact ⟨[], [], by simp, by simp, .nil⟩
  | cons operation operations ih =>
    obtain ⟨x₁, x₂, hx₁, hx₂, hx, hs', hw'⟩ := advance he hs hw operation
    obtain ⟨steps₁, steps₂, hsteps₁, hsteps₂, hsteps⟩ := ih hs' hw'
    refine ⟨x₁ :: steps₁, x₂ :: steps₂, ?_, ?_, .cons hx hsteps⟩
    · simp [hsteps₁, hx₁]
    · simp [hsteps₂, hx₂]

end Correspondence
end RowBatch
