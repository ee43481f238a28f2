import RowBatch.Executor
import RowBatch.Proofs.Writer.Session

/-!
Executors that give the same answers to the same requests. A writer can not tell them apart: it goes
through the same states with the same calls and results, whatever the executors keep of it. What the
second executor says when it fails may be a translation of what the first one says.
-/

namespace RowBatch

variable {σ₁ σ₂ η ε₁ ε₂ : Type}

def BatchError.map (f : ε₁ → ε₂) : BatchError ε₁ → BatchError ε₂
  | .configuration cause => .configuration cause
  | .arity expected actual => .arity expected actual
  | .execution cause => .execution (f cause)

/-- In corresponding states, the same request gets the same answer, and the states go on to
correspond. -/
structure AnswersAlike (state : σ₁ → σ₂ → Prop) (f : ε₁ → ε₂) (e₁ : Executor σ₁ η ε₁)
    (e₂ : Executor σ₂ η ε₂) : Prop where
  style_eq : e₁.style = e₂.style
  prepare : ∀ {s₁ s₂} text, state s₁ s₂ →
    state (e₁.prepare s₁ text).1 (e₂.prepare s₂ text).1 ∧
      (e₂.prepare s₂ text).2 = (e₁.prepare s₁ text).2.mapError f
  prepareTransient : ∀ {s₁ s₂} text, state s₁ s₂ →
    state (e₁.prepareTransient s₁ text).1 (e₂.prepareTransient s₂ text).1 ∧
      (e₂.prepareTransient s₂ text).2 = (e₁.prepareTransient s₁ text).2.mapError f
  execute : ∀ {s₁ s₂} statement parameters, state s₁ s₂ →
    state (e₁.execute s₁ statement parameters).1 (e₂.execute s₂ statement parameters).1 ∧
      (e₂.execute s₂ statement parameters).2 = (e₁.execute s₁ statement parameters).2.mapError f

theorem Executor.mapError_answersAlike (f : ε₁ → ε₂) (e : Executor σ₁ η ε₁) :
    AnswersAlike Eq f e (e.mapError f) where
  style_eq := rfl
  prepare := by
    rintro s _ text rfl
    exact ⟨rfl, rfl⟩
  prepareTransient := by
    rintro s _ text rfl
    exact ⟨rfl, rfl⟩
  execute := by
    rintro s _ statement parameters rfl
    exact ⟨rfl, rfl⟩

structure OutcomesAlike {α : Type} (state : σ₁ → σ₂ → Prop) (f : ε₁ → ε₂)
    (o₁ : Writer.Outcome (σ₁ × Writer η) ε₁ α) (o₂ : Writer.Outcome (σ₂ × Writer η) ε₂ α) :
    Prop where
  state : state o₁.state.1 o₂.state.1
  writer_eq : o₂.state.2 = o₁.state.2
  result_eq : o₂.result = o₁.result.mapError (BatchError.map f)

def Writer.Step.mapError (f : ε₁ → ε₂) (x : Writer.Step η ε₁) : Writer.Step η ε₂ :=
  ⟨x.operation, x.before, x.calls.map (Call.mapError f), x.result.mapError (BatchError.map f),
    x.after⟩

/-- Histories that differ in the states of the executors only, after a translation. -/
structure HistoriesAlike (state : σ₁ → σ₂ → Prop) (f : ε₁ → ε₂) (h₁ : Writer.History σ₁ η ε₁)
    (h₂ : Writer.History σ₂ η ε₂) : Prop where
  state : state h₁.state h₂.state
  writer_eq : h₂.writer = h₁.writer
  opening_eq : h₂.opening = h₁.opening.map (Call.mapError f)
  steps_eq : h₂.steps = h₁.steps.map (Writer.Step.mapError f)

theorem mapError_map {α β ε ε' : Type} (f : ε → ε') (g : α → β) (x : Except ε α) :
    (x.map g).mapError f = (x.mapError f).map g := by
  cases x <;> rfl

theorem OutcomesAlike.map {α β : Type} {state : σ₁ → σ₂ → Prop} {f : ε₁ → ε₂}
    {o₁ : Writer.Outcome (σ₁ × Writer η) ε₁ α} {o₂ : Writer.Outcome (σ₂ × Writer η) ε₂ α}
    (h : OutcomesAlike state f o₁ o₂) (g : α → β) :
    OutcomesAlike state f (o₁.map g) (o₂.map g) := by
  refine ⟨h.state, h.writer_eq, ?_⟩
  simp only [Writer.Outcome.map, h.result_eq, mapError_map]

namespace AnswersAlike

variable {state : σ₁ → σ₂ → Prop} {f : ε₁ → ε₂} {e₁ : Executor σ₁ η ε₁} {e₂ : Executor σ₂ η ε₂}
  {s₁ : σ₁} {s₂ : σ₂}

section Requests

variable (he : AnswersAlike state f e₁ e₂) (hs : state s₁ s₂)
include he hs

theorem exists_prepare (text : String) : ∃ s₁' s₂' answer,
    e₁.prepare s₁ text = (s₁', answer) ∧ e₂.prepare s₂ text = (s₂', answer.mapError f) ∧
      state s₁' s₂' :=
  have hanswer := he.prepare text hs
  ⟨_, _, _, rfl, Prod.ext rfl hanswer.2, hanswer.1⟩

theorem exists_prepareTransient (text : String) : ∃ s₁' s₂' answer,
    e₁.prepareTransient s₁ text = (s₁', answer) ∧
      e₂.prepareTransient s₂ text = (s₂', answer.mapError f) ∧ state s₁' s₂' :=
  have hanswer := he.prepareTransient text hs
  ⟨_, _, _, rfl, Prod.ext rfl hanswer.2, hanswer.1⟩

theorem exists_execute (statement : η) (parameters : List Value) : ∃ s₁' s₂' answer,
    e₁.execute s₁ statement parameters = (s₁', answer) ∧
      e₂.execute s₂ statement parameters = (s₂', answer.mapError f) ∧ state s₁' s₂' :=
  have hanswer := he.execute statement parameters hs
  ⟨_, _, _, rfl, Prod.ext rfl hanswer.2, hanswer.1⟩

end Requests

section Operations

variable (he : AnswersAlike state f e₁ e₂) (hs : state s₁ s₂) (w : Writer η)
include he hs

theorem executeBatch :
    OutcomesAlike state f (Writer.executeBatch e₁ s₁ w) (Writer.executeBatch e₂ s₂ w) := by
  obtain ⟨s₁', s₂', answer, h₁, h₂, hs'⟩ := he.exists_execute hs w.statement w.parameters
  simp only [Writer.executeBatch, h₁, h₂]
  cases answer <;> exact ⟨hs', rfl, rfl⟩

theorem accept (row : Row) (wrote : Bool) :
    OutcomesAlike state f (Writer.accept e₁ s₁ w row wrote) (Writer.accept e₂ s₂ w row wrote) := by
  unfold Writer.accept
  dsimp only
  split
  · exact (he.executeBatch hs _).map _
  · exact ⟨hs, rfl, rfl⟩

theorem executeRest :
    OutcomesAlike state f (Writer.executeRest e₁ s₁ w) (Writer.executeRest e₂ s₂ w) := by
  obtain ⟨s₁', s₂', prepared, h₁, h₂, hs'⟩ :=
    he.exists_prepareTransient hs (w.template.text w.pending)
  simp only [Writer.executeRest, h₁, h₂]
  cases prepared with
  | error cause => exact ⟨hs', rfl, rfl⟩
  | ok statement =>
    obtain ⟨s₁'', s₂'', answer, h₁, h₂, hs''⟩ := he.exists_execute hs' statement w.parameters
    simp only [Except.mapError, h₁, h₂]
    cases answer <;> exact ⟨hs'', rfl, rfl⟩

theorem queue (row : Row) :
    OutcomesAlike state f (Writer.queue e₁ s₁ w row) (Writer.queue e₂ s₂ w row) := by
  unfold Writer.queue
  split
  · exact ⟨hs, rfl, rfl⟩
  · split
    · have hretry := he.executeBatch hs w
      dsimp only
      rw [hretry.result_eq]
      cases hresult : (Writer.executeBatch e₁ s₁ w).result with
      | error cause => exact ⟨hretry.state, hretry.writer_eq, rfl⟩
      | ok _ =>
        have hrest := he.accept hretry.state (Writer.executeBatch e₁ s₁ w).state.2 row true
        simp only [Except.mapError, hretry.writer_eq]
        exact ⟨hrest.state, hrest.writer_eq, hrest.result_eq⟩
    · exact he.accept hs w row false

theorem flush : OutcomesAlike state f (Writer.flush e₁ s₁ w) (Writer.flush e₂ s₂ w) := by
  unfold Writer.flush
  split
  · exact ⟨hs, rfl, rfl⟩
  · split
    · exact he.executeBatch hs w
    · exact he.executeRest hs w

theorem perform (operation : Writer.Operation) :
    OutcomesAlike state f (Writer.perform e₁ s₁ w operation) (Writer.perform e₂ s₂ w operation) := by
  cases operation with
  | queue row => exact (he.queue hs w row).map some
  | flush => exact (he.flush hs w).map fun _ => none
  | reset => exact ⟨hs, rfl, rfl⟩

end Operations

section Runs

def Recorded (state : σ₁ → σ₂ → Prop) (f : ε₁ → ε₂) (p : σ₁ × List (Call η ε₁))
    (q : σ₂ × List (Call η ε₂)) : Prop :=
  state p.1 q.1 ∧ q.2 = p.2.map (Call.mapError f)

theorem recorded (he : AnswersAlike state f e₁ e₂) :
    AnswersAlike (Recorded (η := η) state f) f e₁.recorded e₂.recorded where
  style_eq := he.style_eq
  prepare := by
    rintro ⟨s₁, calls₁⟩ ⟨s₂, calls₂⟩ text ⟨hs, hcalls⟩
    obtain ⟨s₁', s₂', answer, h₁, h₂, hs'⟩ := he.exists_prepare hs text
    simp [Executor.recorded, Recorded, h₁, h₂, hs', Call.mapError, show calls₂ = _ from hcalls]
  prepareTransient := by
    rintro ⟨s₁, calls₁⟩ ⟨s₂, calls₂⟩ text ⟨hs, hcalls⟩
    obtain ⟨s₁', s₂', answer, h₁, h₂, hs'⟩ := he.exists_prepareTransient hs text
    simp [Executor.recorded, Recorded, h₁, h₂, hs', Call.mapError, show calls₂ = _ from hcalls]
  execute := by
    rintro ⟨s₁, calls₁⟩ ⟨s₂, calls₂⟩ statement parameters ⟨hs, hcalls⟩
    obtain ⟨s₁', s₂', answer, h₁, h₂, hs'⟩ := he.exists_execute hs statement parameters
    simp [Executor.recorded, Recorded, h₁, h₂, hs', Call.mapError, show calls₂ = _ from hcalls]

variable {h₁ : Writer.History σ₁ η ε₁} {h₂ : Writer.History σ₂ η ε₂}

theorem advance (he : AnswersAlike state f e₁ e₂) (h : HistoriesAlike state f h₁ h₂)
    (operation : Writer.Operation) :
    HistoriesAlike state f (h₁.advance e₁ operation) (h₂.advance e₂ operation) := by
  have hstart : Recorded (η := η) state f (h₁.state, []) (h₂.state, []) := ⟨h.state, rfl⟩
  have hout := he.recorded.perform hstart h₁.writer operation
  have hcalls := congrArg List.reverse hout.state.2
  rw [← List.map_reverse] at hcalls
  refine ⟨?_, ?_, h.opening_eq, ?_⟩
  · simpa only [Writer.History.advance, h.writer_eq] using hout.state.1
  · simpa only [Writer.History.advance, h.writer_eq] using hout.writer_eq
  · simp only [Writer.History.advance, h.writer_eq, h.steps_eq, List.map_append, List.map_cons,
      List.map_nil, Writer.Step.mapError, hcalls, hout.result_eq, hout.writer_eq]

theorem foldl_advance (he : AnswersAlike state f e₁ e₂) (h : HistoriesAlike state f h₁ h₂)
    (operations : List Writer.Operation) :
    HistoriesAlike state f (operations.foldl (Writer.History.advance e₁) h₁)
      (operations.foldl (Writer.History.advance e₂) h₂) := by
  induction operations generalizing h₁ h₂ with
  | nil => exact h
  | cons operation operations ih => exact ih (he.advance h operation)

variable (batchSize : Nat) (table : String) (fields : FieldSet) (variant : Variant)

/-- A configuration is accepted by both executors or by neither, after the same calls. -/
theorem configure (he : AnswersAlike state f e₁ e₂) (hs : state s₁ s₂) :
    state (Writer.configure e₁ s₁ batchSize table fields variant).state
        (Writer.configure e₂ s₂ batchSize table fields variant).state ∧
      (Writer.configure e₂ s₂ batchSize table fields variant).result =
        (Writer.configure e₁ s₁ batchSize table fields variant).result.mapError
          (BatchError.map f) := by
  by_cases hzero : batchSize = 0
  · simpa [Writer.configure, hzero, Except.mapError, BatchError.map] using hs
  · cases htemplate : Template.configure table fields variant e₁.style with
    | error cause =>
      simpa [Writer.configure, hzero, ← he.style_eq, htemplate, Except.mapError,
        BatchError.map] using hs
    | ok template =>
      obtain ⟨s₁', s₂', prepared, h₁, h₂, hs'⟩ := he.exists_prepare hs (template.text batchSize)
      simp only [Writer.configure, hzero, ← he.style_eq, htemplate, h₁, h₂, if_false]
      cases prepared <;> exact ⟨hs', rfl⟩

theorem session (he : AnswersAlike state f e₁ e₂) (hs : state s₁ s₂)
    (operations : List Writer.Operation) :
    (∃ cause, Writer.session e₁ s₁ batchSize table fields variant operations = .error cause ∧
      Writer.session e₂ s₂ batchSize table fields variant operations = .error (cause.map f)) ∨
    ∃ h₁ h₂, Writer.session e₁ s₁ batchSize table fields variant operations = .ok h₁ ∧
      Writer.session e₂ s₂ batchSize table fields variant operations = .ok h₂ ∧
      HistoriesAlike state f h₁ h₂ := by
  have hstart : Recorded (η := η) state f (s₁, []) (s₂, []) := ⟨hs, rfl⟩
  obtain ⟨hstate, hresult⟩ := he.recorded.configure batchSize table fields variant hstart
  dsimp only [Writer.session]
  rw [hresult]
  cases (Writer.configure e₁.recorded (s₁, []) batchSize table fields variant).result with
  | error cause => exact .inl ⟨cause, rfl, rfl⟩
  | ok w =>
    have hcalls := congrArg List.reverse hstate.2
    rw [← List.map_reverse] at hcalls
    exact .inr ⟨_, _, rfl, rfl, he.foldl_advance ⟨hstate.1, rfl, hcalls, rfl⟩ operations⟩

end Runs

end AnswersAlike
end RowBatch
