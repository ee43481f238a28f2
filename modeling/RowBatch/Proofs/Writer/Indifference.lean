import RowBatch.Executor
import RowBatch.Proofs.Statement.Layout
import RowBatch.Proofs.Writer.Correspondence
import RowBatch.Proofs.Writer.Likeness

/-!
A writer does not look into what it writes. Two writers for rows of one length and batches of one
size, on executors that succeed and fail together, do the same whatever their statements say and
whatever the values are.
-/

namespace RowBatch

variable {σ₁ η₁ ε₁ σ₂ η₂ ε₂ : Type}

def Writer.Operation.map (f : Value → Value) : Writer.Operation → Writer.Operation
  | .queue row => .queue (row.map f)
  | .flush => .flush
  | .reset => .reset

/-- Executors that follow one script. Whatever the texts and the statements are, they prepare and
refuse together, and report the same counts and fail together when the parameters of the second are
those of the first with the function applied. -/
structure OneScript (state : σ₁ → σ₂ → Prop) (f : Value → Value) (e₁ : Executor σ₁ η₁ ε₁)
    (e₂ : Executor σ₂ η₂ ε₂) : Prop where
  prepare : ∀ {s₁ s₂} text₁ text₂, state s₁ s₂ →
    state (e₁.prepare s₁ text₁).1 (e₂.prepare s₂ text₂).1 ∧
      (e₁.prepare s₁ text₁).2.isOk = (e₂.prepare s₂ text₂).2.isOk
  prepareTransient : ∀ {s₁ s₂} text₁ text₂, state s₁ s₂ →
    state (e₁.prepareTransient s₁ text₁).1 (e₂.prepareTransient s₂ text₂).1 ∧
      (e₁.prepareTransient s₁ text₁).2.isOk = (e₂.prepareTransient s₂ text₂).2.isOk
  execute : ∀ {s₁ s₂} x₁ x₂ parameters, state s₁ s₂ →
    state (e₁.execute s₁ x₁ parameters).1 (e₂.execute s₂ x₂ (parameters.map f)).1 ∧
      (e₁.execute s₁ x₁ parameters).2.toOption =
        (e₂.execute s₂ x₂ (parameters.map f)).2.toOption

/-- Calls of one kind, which succeed with the same count or fail both. The texts and the statements
may be any, and the parameters of the second are those of the first with the function applied. -/
inductive SameCall (f : Value → Value) : Call η₁ ε₁ → Call η₂ ε₂ → Prop
  | prepare {text₁ text₂ answer₁ answer₂} (h : answer₁.isOk = answer₂.isOk) :
      SameCall f (.prepare text₁ answer₁) (.prepare text₂ answer₂)
  | prepareTransient {text₁ text₂ answer₁ answer₂} (h : answer₁.isOk = answer₂.isOk) :
      SameCall f (.prepareTransient text₁ answer₁) (.prepareTransient text₂ answer₂)
  | execute {x₁ x₂ parameters answer₁ answer₂} (h : answer₁.toOption = answer₂.toOption) :
      SameCall f (.execute x₁ parameters answer₁) (.execute x₂ (parameters.map f) answer₂)

def Writer.Step.outline {η ε : Type} (x : Writer.Step η ε) :
    Except (BatchError Unit) (Option Bool) :=
  x.result.mapError (BatchError.map fun _ => ())

/-- Steps with the same result or the same kind of error, and the same counters behind them, which
made the same kinds of calls in the same order. -/
structure SameStep (f : Value → Value) (x₁ : Writer.Step η₁ ε₁) (x₂ : Writer.Step η₂ ε₂) :
    Prop where
  operation_eq : x₂.operation = x₁.operation.map f
  outline_eq : x₁.outline = x₂.outline
  counters_eq : x₁.after.counters = x₂.after.counters
  calls : List.Forall₂ (SameCall f) x₁.calls x₂.calls

section Silence

variable {σ η ε ε' : Type}

theorem steps_mapError (f : ε → ε') (e : Executor σ η ε) (u : Setup η) (s : σ)
    (operations : List Writer.Operation) :
    (operations.foldl (Writer.History.advance (e.mapError f)) (.start u s)).steps =
      (operations.foldl (Writer.History.advance e) (.start u s)).steps.map
        (Writer.Step.mapError f) := by
  have hstart : HistoriesAlike Eq f (.start u s) (.start u s) := ⟨rfl, rfl, rfl, rfl⟩
  exact ((e.mapError_answersAlike f).foldl_advance hstart operations).steps_eq

theorem agree_iff_isOk {α β : Type} {x : Except ε α} {y : Except ε' β} :
    Agree (fun _ _ => True) (x.mapError fun _ => ()) (y.mapError fun _ => ()) ↔
      x.isOk = y.isOk := by
  cases x <;> cases y
  · exact ⟨fun _ => rfl, fun _ => .error ()⟩
  · exact ⟨fun h => (nomatch h), fun h => (nomatch h)⟩
  · exact ⟨fun h => (nomatch h), fun h => (nomatch h)⟩
  · exact ⟨fun _ => rfl, fun _ => .ok trivial⟩

theorem isOk_map {α β : Type} (g : α → β) (x : Except ε α) : (x.map g).isOk = x.isOk := by
  cases x <;> rfl

theorem mapError_eq_iff_toOption {α : Type} {x : Except ε α} {y : Except ε' α} :
    x.mapError (fun _ => ()) = y.mapError (fun _ => ()) ↔ x.toOption = y.toOption := by
  cases x <;> cases y <;> simp [Except.mapError, Except.toOption]

end Silence

def Correspondence.scripted (state : σ₁ → σ₂ → Prop) (f : Value → Value) :
    Correspondence σ₁ η₁ σ₂ η₂ where
  state := state
  text := fun _ _ => True
  statement := fun _ _ _ _ => True
  value := f

section Scripted

variable {state : σ₁ → σ₂ → Prop} {f : Value → Value} {e₁ : Executor σ₁ η₁ ε₁}
  {e₂ : Executor σ₂ η₂ ε₂}

/-- Executors that follow one script correspond when what they say of failures is left out. -/
theorem OneScript.ofExecutors (h : OneScript state f e₁ e₂) :
    (Correspondence.scripted state f).OfExecutors (e₁.mapError fun _ => ())
      (e₂.mapError fun _ => ()) where
  prepareTransient := by
    intro s₁ s₂ text₁ text₂ hs _
    obtain ⟨hs', hanswer⟩ := h.prepareTransient text₁ text₂ hs
    exact ⟨hs', agree_iff_isOk.mpr hanswer⟩
  execute := by
    intro s₁ s₂ text₁ text₂ x₁ x₂ parameters hs _ _
    obtain ⟨hs', hanswer⟩ := h.execute x₁ x₂ parameters hs
    exact ⟨hs', mapError_eq_iff_toOption.mpr hanswer⟩

theorem operation_scripted :
    (Correspondence.scripted state f : Correspondence σ₁ η₁ σ₂ η₂).operation =
      Writer.Operation.map f := by
  funext operation
  cases operation <;> rfl

theorem Correspondence.OfCalls.execute_eq {ε : Type} {c : Correspondence σ₁ η₁ σ₂ η₂} {x₁ : η₁}
    {x₂ : η₂} {parameters₁ parameters₂ : List Value} {answer₁ answer₂ : Except ε UInt64}
    (h : c.OfCalls (.execute x₁ parameters₁ answer₁) (.execute x₂ parameters₂ answer₂)) :
    parameters₂ = parameters₁.map c.value ∧ answer₁ = answer₂ := by
  cases h
  exact ⟨rfl, rfl⟩

theorem SameCall.of_scripted {call₁ : Call η₁ ε₁} {call₂ : Call η₂ ε₂}
    (h : (Correspondence.scripted state f).OfCalls (call₁.mapError fun _ => ())
      (call₂.mapError fun _ => ())) : SameCall f call₁ call₂ := by
  cases call₁ with
  | prepare text₁ answer₁ => exact nomatch h
  | prepareTransient text₁ answer₁ =>
    cases call₂ with
    | prepareTransient text₂ answer₂ =>
      cases h with
      | prepareTransient _ hanswer => exact .prepareTransient (agree_iff_isOk.mp hanswer)
    | prepare => exact nomatch h
    | execute => exact nomatch h
  | execute x₁ parameters answer₁ =>
    cases call₂ with
    | execute x₂ parameters₂ answer₂ =>
      obtain ⟨rfl, hanswer⟩ := h.execute_eq
      exact .execute (mapError_eq_iff_toOption.mp hanswer)
    | prepare => exact nomatch h
    | prepareTransient => exact nomatch h

theorem SameStep.of_scripted {x₁ : Writer.Step η₁ ε₁} {x₂ : Writer.Step η₂ ε₂}
    (h : (Correspondence.scripted state f).OfSteps (x₁.mapError fun _ => ())
      (x₂.mapError fun _ => ())) : SameStep f x₁ x₂ where
  operation_eq := h.operation_eq.trans (congrFun operation_scripted _)
  outline_eq := h.result_eq
  counters_eq := h.counters_eq
  calls := by
    have hcalls := h.calls
    simp only [Writer.Step.mapError, List.forall₂_map_left_iff, List.forall₂_map_right_iff] at hcalls
    exact hcalls.imp fun _ _ => SameCall.of_scripted

theorem OneScript.forall₂_steps (he : OneScript state f e₁ e₂) {u₁ : Setup η₁} {u₂ : Setup η₂}
    {s₁ : σ₁} {s₂ : σ₂} (hs : state s₁ s₂)
    (hw : (Correspondence.scripted state f).OfWriters (Writer.fresh u₁) (Writer.fresh u₂))
    (operations : List Writer.Operation) :
    List.Forall₂ (SameStep f) (operations.foldl (Writer.History.advance e₁) (.start u₁ s₁)).steps
      ((operations.map (Writer.Operation.map f)).foldl (Writer.History.advance e₂)
        (.start u₂ s₂)).steps := by
  have hstate : state (Writer.History.start (ε := Unit) u₁ s₁).state
      (Writer.History.start (ε := Unit) u₂ s₂).state := hs
  obtain ⟨steps₁, steps₂, hsteps₁, hsteps₂, hsteps⟩ :=
    Correspondence.run he.ofExecutors hstate hw operations
  rw [operation_scripted] at hsteps₂
  rw [steps_mapError] at hsteps₁ hsteps₂
  simp only [Writer.History.start, List.nil_append] at hsteps₁ hsteps₂
  rw [← hsteps₁, ← hsteps₂, List.forall₂_map_left_iff, List.forall₂_map_right_iff] at hsteps
  exact hsteps.imp fun _ _ => SameStep.of_scripted

variable {s₁ : σ₁} {s₂ : σ₂} {batchSize : Nat} {table₁ table₂ : String} {fields₁ fields₂ : FieldSet}
  {variant₁ variant₂ : Variant} {operations : List Writer.Operation}
  {h₁ : Writer.History σ₁ η₁ ε₁} {h₂ : Writer.History σ₂ η₂ ε₂}

/-- Writers neither look at the values nor at the texts. Two of them, for rows of one length and
batches of one size, that are asked for the same operations on other values go through the same
steps as long as their executors follow one script. -/
theorem values_disregarded (he : OneScript state f e₁ e₂) (hs : state s₁ s₂)
    (harity : fields₁.arity = fields₂.arity)
    (hrun₁ : Writer.session e₁ s₁ batchSize table₁ fields₁ variant₁ operations = .ok h₁)
    (hrun₂ : Writer.session e₂ s₂ batchSize table₂ fields₂ variant₂
      (operations.map (Writer.Operation.map f)) = .ok h₂) :
    List.Forall₂ (SameCall f) h₁.opening h₂.opening ∧
      List.Forall₂ (SameStep f) h₁.steps h₂.steps := by
  constructor
  · rw [Writer.session_opening hrun₁, Writer.session_opening hrun₂]
    exact .cons (.prepare rfl) .nil
  · obtain ⟨u₁, s₁', hopened₁, hsession₁⟩ := Writer.session_start hrun₁
    obtain ⟨u₂, s₂', hopened₂, hsession₂⟩ := Writer.session_start hrun₂
    have hs' : state s₁' s₂' := by
      have hprepared := (he.prepare u₁.statementText u₂.statementText hs).1
      rwa [hopened₁.prepared, hopened₂.prepared] at hprepared
    have hwidth : u₁.arity = u₂.arity := by
      have hfields₁ := (Template.configure_eq_ok hopened₁.template_ok).2.1
      have hfields₂ := (Template.configure_eq_ok hopened₂.template_ok).2.1
      rwa [Setup.arity, Setup.arity, Template.arity, Template.arity, hfields₁, hfields₂]
    have hsize : u₁.batchSize = u₂.batchSize :=
      hopened₁.batchSize_eq.trans hopened₂.batchSize_eq.symm
    have hwriters : (Correspondence.scripted state f).OfWriters (Writer.fresh u₁)
        (Writer.fresh u₂) := .fresh hwidth hsize (fun _ => trivial) trivial
    obtain rfl := Except.ok.inj ((hsession₁ _).symm.trans hrun₁)
    obtain rfl := Except.ok.inj ((hsession₂ _).symm.trans hrun₂)
    exact he.forall₂_steps hs' hwriters operations

end Scripted

namespace Script

def outline (s : Script) : List Bool × List (Option UInt64) :=
  (s.prepare.map Except.isOk, s.execute.map Except.toOption)

theorem answerPrepare_outline {s₁ s₂ : Script} (hs : s₁.outline = s₂.outline)
    (text₁ text₂ : String) :
    (s₁.answerPrepare text₁).1.outline = (s₂.answerPrepare text₂).1.outline ∧
      (s₁.answerPrepare text₁).2.isOk = (s₂.answerPrepare text₂).2.isOk := by
  obtain ⟨prepare₁, execute₁⟩ := s₁
  obtain ⟨prepare₂, execute₂⟩ := s₂
  obtain ⟨hprepare, hexecute⟩ := Prod.mk.inj hs
  cases prepare₁ with
  | nil =>
    obtain rfl := List.map_eq_nil_iff.mp hprepare.symm
    exact ⟨hs, rfl⟩
  | cons answer₁ rest₁ =>
    obtain ⟨answer₂, rest₂, rfl, hanswer, hrest⟩ := List.map_eq_cons_iff.mp hprepare.symm
    refine ⟨Prod.ext hrest.symm hexecute, ?_⟩
    simp only [answerPrepare, isOk_map, hanswer]

theorem answerExecute_outline {s₁ s₂ : Script} (hs : s₁.outline = s₂.outline)
    (x₁ x₂ : String) (parameters : List Value) (f : Value → Value) :
    (s₁.answerExecute x₁ parameters).1.outline =
        (s₂.answerExecute x₂ (parameters.map f)).1.outline ∧
      (s₁.answerExecute x₁ parameters).2.toOption =
        (s₂.answerExecute x₂ (parameters.map f)).2.toOption := by
  obtain ⟨prepare₁, execute₁⟩ := s₁
  obtain ⟨prepare₂, execute₂⟩ := s₂
  obtain ⟨hprepare, hexecute⟩ := Prod.mk.inj hs
  cases execute₁ with
  | nil =>
    obtain rfl := List.map_eq_nil_iff.mp hexecute.symm
    simpa [answerExecute] using hs
  | cons answer₁ rest₁ =>
    obtain ⟨answer₂, rest₂, rfl, hanswer, hrest⟩ := List.map_eq_cons_iff.mp hexecute.symm
    exact ⟨Prod.ext hprepare hrest.symm, hanswer.symm⟩

theorem oneScript (style₁ style₂ : PlaceholderStyle) (f : Value → Value) :
    OneScript (fun s₁ s₂ => s₁.outline = s₂.outline) f (executor style₁) (executor style₂) where
  prepare := fun text₁ text₂ hs => answerPrepare_outline hs text₁ text₂
  prepareTransient := fun text₁ text₂ hs => answerPrepare_outline hs text₁ text₂
  execute := fun x₁ x₂ parameters hs => answerExecute_outline hs x₁ x₂ parameters f

def refusing (cause : String) : Script := ⟨[.ok (), .error cause], [.error cause, .ok 2]⟩

def scores : FieldSet :=
  ⟨["player", "points"], ["player"], ["points+points"], by decide, by decide, by decide⟩

def mixed : List Writer.Operation :=
  [.queue [.int 1, .null], .queue [.int 2], .queue [.int 3, .text ""], .flush,
    .queue [.int 4, .null], .flush, .reset]

theorem mixed_disregarded : ∃ h₁ h₂,
    Writer.session (executor .numbered) (refusing "locked") 2 "users" Writer.users .insertIgnore
      mixed = .ok h₁ ∧
    Writer.session (executor .questionMark) (refusing "disk full") 2 "scores" scores .upsertValues
      (mixed.map (Writer.Operation.map fun _ => .null)) = .ok h₂ ∧
    List.Forall₂ (SameCall fun _ => .null) h₁.opening h₂.opening ∧
      List.Forall₂ (SameStep fun _ => .null) h₁.steps h₂.steps := by
  have hrun₁ : Writer.session (executor .numbered) (refusing "locked") 2 "users" Writer.users
    .insertIgnore mixed = .ok _ := rfl
  have hrun₂ : Writer.session (executor .questionMark) (refusing "disk full") 2 "scores" scores
    .upsertValues (mixed.map (Writer.Operation.map fun _ => .null)) = .ok _ := rfl
  have hscript := oneScript .numbered .questionMark fun _ => .null
  have houtline : (refusing "locked").outline = (refusing "disk full").outline := rfl
  have harity : Writer.users.arity = scores.arity := rfl
  exact ⟨_, _, hrun₁, hrun₂, values_disregarded hscript houtline harity hrun₁ hrun₂⟩

end Script
end RowBatch
