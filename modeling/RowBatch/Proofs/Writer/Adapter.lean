import RowBatch.Executor
import RowBatch.Proofs.Writer.Correspondence
import RowBatch.Proofs.Writer.Likeness

/-!
Executors that pass requests on leave no trace. A writer on a reference to an executor does what it
does on the executor itself, and an executor without a preparation for single executions is used
like one that has such a preparation and treats it as any other.
-/

namespace RowBatch

variable {σ σ₁ σ₂ τ η ε : Type}

section Untranslated

theorem mapError_id {α : Type} (x : Except ε α) : x.mapError id = x := by
  cases x <;> rfl

theorem BatchError.map_id : (BatchError.map id : BatchError ε → BatchError ε) = id := by
  funext cause
  cases cause <;> rfl

theorem Call.mapError_id : (Call.mapError id : Call η ε → Call η ε) = id := by
  funext call
  cases call <;> simp [Call.mapError, RowBatch.mapError_id]

theorem Writer.Step.mapError_id :
    (Writer.Step.mapError id : Writer.Step η ε → Writer.Step η ε) = id := by
  funext x
  simp [Writer.Step.mapError, Call.mapError_id, BatchError.map_id, RowBatch.mapError_id]

end Untranslated

abbrev SameAnswers (state : σ₁ → σ₂ → Prop) (e₁ : Executor σ₁ η ε) (e₂ : Executor σ₂ η ε) : Prop :=
  AnswersAlike state id e₁ e₂

structure SameHistory (state : σ₁ → σ₂ → Prop) (h₁ : Writer.History σ₁ η ε)
    (h₂ : Writer.History σ₂ η ε) : Prop where
  state : state h₁.state h₂.state
  writer_eq : h₁.writer = h₂.writer
  opening_eq : h₁.opening = h₂.opening
  steps_eq : h₁.steps = h₂.steps

/-- Writers of one configuration that can not be told apart: the configuration is accepted or refused
alike and leaves the executors in corresponding states, and so does every list of operations. -/
structure Indistinct (state : σ₁ → σ₂ → Prop) (e₁ : Executor σ₁ η ε) (s₁ : σ₁)
    (e₂ : Executor σ₂ η ε) (s₂ : σ₂) (batchSize : Nat) (table : String) (fields : FieldSet)
    (variant : Variant) : Prop where
  configured : state (Writer.configure e₁ s₁ batchSize table fields variant).state
    (Writer.configure e₂ s₂ batchSize table fields variant).state
  result_eq : (Writer.configure e₁ s₁ batchSize table fields variant).result =
    (Writer.configure e₂ s₂ batchSize table fields variant).result
  session : ∀ operations, Agree (SameHistory state)
    (Writer.session e₁ s₁ batchSize table fields variant operations)
    (Writer.session e₂ s₂ batchSize table fields variant operations)

variable {e₁ : Executor σ₁ η ε} {e₂ : Executor σ₂ η ε} {s₁ : σ₁} {s₂ : σ₂} {batchSize : Nat}
  {table : String} {fields : FieldSet} {variant : Variant} {state : σ₁ → σ₂ → Prop}

theorem SameAnswers.refl (e : Executor σ η ε) : SameAnswers Eq e e := by
  have hsame : e.mapError id = e := by simp [Executor.mapError, mapError_id]
  have halike := e.mapError_answersAlike id
  rwa [hsame] at halike

theorem SameAnswers.indistinct (he : SameAnswers state e₁ e₂) (hs : state s₁ s₂) :
    Indistinct state e₁ s₁ e₂ s₂ batchSize table fields variant := by
  obtain ⟨hconfigured, hresult⟩ := he.configure batchSize table fields variant hs
  rw [BatchError.map_id, mapError_id] at hresult
  refine ⟨hconfigured, hresult.symm, fun operations => ?_⟩
  obtain ⟨cause, h₁, h₂⟩ | ⟨h₁, h₂, hrun₁, hrun₂, halike⟩ :=
    he.session batchSize table fields variant hs operations
  · rw [h₁, h₂, BatchError.map_id]
    exact .error cause
  · have hopening := halike.opening_eq
    have hsteps := halike.steps_eq
    rw [Call.mapError_id, List.map_id] at hopening
    rw [Writer.Step.mapError_id, List.map_id] at hsteps
    rw [hrun₁, hrun₂]
    exact .ok ⟨halike.state, halike.writer_eq.symm, hopening.symm, hsteps.symm⟩

namespace Executor

theorem Behind.sameAnswers {e : Executor σ η ε} {outer : Executor τ η ε} {part : τ → σ}
    (h : Behind e outer part) : SameAnswers (fun t s => part t = s) outer e := by
  induction h with
  | owned => exact SameAnswers.refl e
  | reference h place update hplace ih =>
    refine ⟨ih.style_eq, ?_, ?_, ?_⟩
    · intro u s text hs
      have hinner := ih.prepare text hs
      simpa [onPart, hplace] using hinner
    · intro u s text hs
      have hinner := ih.prepareTransient text hs
      simpa [onPart, hplace] using hinner
    · intro u s statement parameters hs
      have hinner := ih.execute statement parameters hs
      simpa [onPart, hplace] using hinner

/-- An executor that is asked for plain preparations only, beside one that answers as it does and is
asked for transient ones as well: their calls differ in the kind of preparation. -/
theorem basic_sameAnswers {e : Executor σ₁ η ε} {marked : Executor σ₂ η ε}
    (h : SameAnswers state e.basic marked) :
    SameAnswers (fun p q => state p.1 q.1 ∧ p.2 = q.2.map Call.asPrepare) e.recorded.basic
      marked.recorded where
  style_eq := h.style_eq
  prepare := by
    rintro ⟨s₁, _⟩ ⟨s₂, calls⟩ text ⟨hs, rfl⟩
    have hanswer := h.prepare text hs
    rw [mapError_id] at hanswer
    refine ⟨⟨hanswer.1, ?_⟩, hanswer.2.trans (mapError_id _).symm⟩
    simp [recorded, basic, Call.asPrepare, hanswer.2]
  prepareTransient := by
    rintro ⟨s₁, _⟩ ⟨s₂, calls⟩ text ⟨hs, rfl⟩
    have hanswer := h.prepareTransient text hs
    rw [mapError_id] at hanswer
    refine ⟨⟨hanswer.1, ?_⟩, hanswer.2.trans (mapError_id _).symm⟩
    simp [recorded, basic, Call.asPrepare, hanswer.2]
  execute := by
    rintro ⟨s₁, _⟩ ⟨s₂, calls⟩ statement parameters ⟨hs, rfl⟩
    have hanswer := h.execute statement parameters hs
    rw [mapError_id] at hanswer
    refine ⟨⟨hanswer.1, ?_⟩, hanswer.2.trans (mapError_id _).symm⟩
    simp [recorded, basic, Call.asPrepare, hanswer.2]

end Executor

/-- Adapters are transparent. A writer on an executor behind any number of references makes the same
calls of every kind as a writer that owns the executor, with the same results and counters. On an
executor without transient preparations, a writer does what it does on one with question marks that
answers them like others, but that it makes plain preparations of the same texts instead. The
recorded executors keep the calls that reach them. -/
theorem adapters_transparent (e : Executor σ η ε) (batchSize : Nat) (table : String)
    (fields : FieldSet) (variant : Variant) :
    (∀ {τ : Type} {outer : Executor τ η ε} {part : τ → σ × List (Call η ε)},
      Executor.Behind e.recorded outer part → ∀ t,
        Indistinct (fun u p => part u = p) outer t e.recorded (part t) batchSize table fields
          variant) ∧
    ∀ {σ' : Type} {marked : Executor σ' η ε} {state : σ → σ' → Prop},
      SameAnswers state e.basic marked → ∀ s s', state s s' →
        Indistinct (fun p q => state p.1 q.1 ∧ p.2 = q.2.map Call.asPrepare) e.recorded.basic (s, [])
          marked.recorded (s', []) batchSize table fields variant := by
  refine ⟨fun h t => h.sameAnswers.indistinct rfl, fun h s s' hs => ?_⟩
  exact (Executor.basic_sameAnswers h).indistinct ⟨hs, rfl⟩

namespace Script

theorem basic_sameAnswers (style : PlaceholderStyle) :
    SameAnswers Eq (executor style).basic (executor .questionMark) :=
  SameAnswers.refl (executor .questionMark)

def borrowedTwice : Executor (((Script × List (Call String String)) × Nat) × Bool) String String :=
  ((executor .numbered).recorded.onPart Prod.fst fun u t => (t, u.2)).onPart Prod.fst
    fun u t => (t, u.2)

theorem behind_borrowedTwice : Executor.Behind (executor .numbered).recorded borrowedTwice
    ((id ∘ Prod.fst) ∘ Prod.fst) :=
  .reference (.reference .owned Prod.fst _ fun _ _ => rfl) Prod.fst _ fun _ _ => rfl

/-- A refused preparation for a single row, and a failed batch. -/
def troubled : Script := ⟨[.ok (), .error "no statement"], [.error "locked", .ok 2]⟩

def inTrouble : List Writer.Operation :=
  [.queue [.int 1, .null], .flush, .queue [.int 2, .null], .flush, .queue [.int 3, .null], .flush]

theorem troubled_transparent :
    (∃ h₁ h₂, Writer.session borrowedTwice (((troubled, []), 7), true) 2 "users" Writer.users
        .insertIgnore inTrouble = .ok h₁ ∧
      Writer.session (executor .numbered).recorded (troubled, []) 2 "users" Writer.users
        .insertIgnore inTrouble = .ok h₂ ∧
      h₁.state.1.1 = h₂.state ∧ h₁.steps = h₂.steps) ∧
    ∃ h₁ h₂, Writer.session (executor .numbered).recorded.basic (troubled, []) 2 "users"
        Writer.users .insertIgnore inTrouble = .ok h₁ ∧
      Writer.session (executor .questionMark).recorded (troubled, []) 2 "users" Writer.users
        .insertIgnore inTrouble = .ok h₂ ∧
      h₁.state.2 = h₂.state.2.map Call.asPrepare ∧ h₁.steps = h₂.steps := by
  obtain ⟨hreferences, hdefaults⟩ :=
    adapters_transparent (executor .numbered) 2 "users" Writer.users .insertIgnore
  have hborrowed := (hreferences behind_borrowedTwice (((troubled, []), 7), true)).session inTrouble
  have hbasic := (hdefaults (basic_sameAnswers .numbered) troubled troubled rfl).session inTrouble
  have hrun : Writer.session borrowedTwice (((troubled, []), 7), true) 2 "users" Writer.users
    .insertIgnore inTrouble = .ok _ := rfl
  have hbasicRun : Writer.session (executor .numbered).recorded.basic (troubled, []) 2 "users"
    Writer.users .insertIgnore inTrouble = .ok _ := rfl
  have hsame := hborrowed.related hrun rfl
  have hsame' := hbasic.related hbasicRun rfl
  exact ⟨⟨_, _, hrun, rfl, hsame.state, hsame.steps_eq⟩,
    _, _, hbasicRun, rfl, hsame'.state.2, hsame'.steps_eq⟩

end Script
end RowBatch
