import RowBatch.Executor
import RowBatch.Proofs.Writer.Correspondence

/-!
A reset gives a fresh writer. Whatever happened before, from then on the writer can not be told
from one that was just configured: it answers alike, counts alike and makes the same calls, as long
as the executors answer alike.
-/

namespace RowBatch

variable {σ₁ η₁ σ₂ η₂ ε : Type}

/-- The correspondence of runs with the same texts and values. The states and the statements of the
executors may be of different kinds; `statement` tells which were prepared from a text. -/
def Correspondence.same (state : σ₁ → σ₂ → Prop) (statement : String → η₁ → η₂ → Prop) :
    Correspondence σ₁ η₁ σ₂ η₂ where
  state := state
  text := Eq
  statement := fun text _ => statement text
  value := id

namespace Correspondence

variable {state : σ₁ → σ₂ → Prop} {statement : String → η₁ → η₂ → Prop}

theorem operation_same : (same state statement).operation = id := by
  funext operation
  cases operation with
  | queue row => simp [Correspondence.operation, same]
  | flush => rfl
  | reset => rfl

theorem ofWriters_fresh {u₁ : Setup η₁} {u₂ : Setup η₂} (htemplate : u₁.template = u₂.template)
    (hsize : u₁.batchSize = u₂.batchSize)
    (hstatement : statement (u₁.template.text u₁.batchSize) u₁.statement u₂.statement) :
    (same state statement).OfWriters (Writer.fresh u₁) (Writer.fresh u₂) :=
  .fresh (congrArg Template.arity htemplate) hsize
    (fun rows => congrArg (Template.text · rows) htemplate) hstatement

end Correspondence

namespace Writer

theorem reset_eq_fresh {η : Type} (w : Writer η) : w.reset = fresh w.toSetup := rfl

variable {e₁ : Executor σ₁ η₁ ε} {e₂ : Executor σ₂ η₂ ε} {s₁ : σ₁} {s₂ : σ₂} {batchSize : Nat}
  {table : String} {fields : FieldSet} {variant : Variant} {past : List Operation}
  {h : History σ₁ η₁ ε} {new : History σ₂ η₂ ε} {state : σ₁ → σ₂ → Prop}
  {statement : String → η₁ → η₂ → Prop}

theorem reset_ofWriters (hstyle : e₁.style = e₂.style)
    (hpast : session e₁ s₁ batchSize table fields variant past = .ok h)
    (hnew : session e₂ s₂ batchSize table fields variant [] = .ok new)
    (hstatement : statement h.writer.statementText h.writer.statement new.writer.statement) :
    (Correspondence.same state statement).OfWriters h.writer.reset new.writer := by
  obtain ⟨s₁', hopened₁, _⟩ := session_exec hpast
  obtain ⟨s₂', hopened₂, _⟩ := session_exec hnew
  have htemplate : h.writer.template = new.writer.template := by
    have hconfigured := hopened₁.template_ok
    rw [hstyle] at hconfigured
    exact Except.ok.inj (hconfigured.symm.trans hopened₂.template_ok)
  have hsize : h.writer.batchSize = new.writer.batchSize :=
    hopened₁.batchSize_eq.trans hopened₂.batchSize_eq.symm
  rw [hopened₁.text_eq] at hstatement
  rw [reset_eq_fresh, (session_nil hnew).1]
  exact Correspondence.ofWriters_fresh htemplate hsize hstatement

/-- Whatever a writer has been through, after a reset it goes on as a new writer of the same
configuration goes on from its start, given executors that answer alike from there: with the same
results, the same counters after every step, and the same calls with the same texts and parameters.
The full-size statement is not prepared again. -/
theorem reset_renews (he : (Correspondence.same state statement).OfExecutors e₁ e₂)
    (hstyle : e₁.style = e₂.style)
    (hpast : session e₁ s₁ batchSize table fields variant past = .ok h)
    (hnew : session e₂ s₂ batchSize table fields variant [] = .ok new)
    (hstate : state h.state new.state)
    (hstatement : statement h.writer.statementText h.writer.statement new.writer.statement)
    (later : List Operation) : ∃ h₁ h₂ x steps,
      session e₁ s₁ batchSize table fields variant (past ++ .reset :: later) = .ok h₁ ∧
      session e₂ s₂ batchSize table fields variant later = .ok h₂ ∧
      h₁.steps = h.steps ++ x :: steps ∧ x.operation = .reset ∧ x.calls = [] ∧
      x.after.counters = new.writer.counters ∧
      List.Forall₂ (Correspondence.same state statement).OfSteps steps h₂.steps ∧
      (∀ text answer, .prepare text answer ∉ steps.flatMap Step.calls) ∧
      ∀ text answer, .prepare text answer ∉ h₂.steps.flatMap Step.calls := by
  have hwriters : (Correspondence.same state statement).OfWriters h.writer.reset new.writer :=
    reset_ofWriters hstyle hpast hnew hstatement
  have hreset : (h.advance e₁ .reset).steps =
      h.steps ++ [⟨.reset, h.writer, [], .ok none, h.writer.reset⟩] := rfl
  have hadvanced : state (h.advance e₁ .reset).state new.state := hstate
  obtain ⟨steps₁, steps₂, hsteps₁, hsteps₂, hsteps⟩ :=
    Correspondence.run he hadvanced hwriters later
  rw [Correspondence.operation_same, List.map_id, (session_nil hnew).2, List.nil_append] at hsteps₂
  obtain ⟨hprepare₁, hprepare₂⟩ :=
    Correspondence.OfCalls.prepare_not_mem (Correspondence.OfSteps.flatMap_calls hsteps)
  refine ⟨_, _, ⟨.reset, h.writer, [], .ok none, h.writer.reset⟩, steps₁, session_append hpast _,
    session_append hnew later, ?_, rfl, rfl, hwriters.counters_eq, ?_, hprepare₁, ?_⟩
  · rw [List.foldl_cons, hsteps₁, hreset, List.append_assoc, List.singleton_append]
  · rwa [hsteps₂]
  · rwa [hsteps₂]

def sameScript : Correspondence Script String Script String :=
  .same Eq fun text x₁ x₂ => x₁ = text ∧ x₂ = text

theorem sameScript_ofExecutors (style : PlaceholderStyle) :
    sameScript.OfExecutors (Script.executor style) (Script.executor style) where
  prepareTransient := by
    rintro s _ text _ rfl rfl
    refine ⟨rfl, ?_⟩
    simp only [Script.executor, Script.answerPrepare]
    cases s.prepare with
    | nil => exact .ok ⟨rfl, rfl⟩
    | cons answer rest =>
      cases answer with
      | error cause => exact .error cause
      | ok _ => exact .ok ⟨rfl, rfl⟩
  execute := by
    rintro s _ text _ x₁ x₂ parameters rfl rfl ⟨rfl, rfl⟩
    simp [sameScript, Correspondence.same]

/-- A full batch that failed twice, and a new writer whose executor has the same answers left. -/
def stuck : Except (BatchError String) (History Script String String) :=
  session (Script.executor .numbered)
    ⟨[], [.error "locked", .error "locked", .error "busy", .ok 2]⟩ 2 "users" users .insertIgnore
    [.queue [.int 1, .null], .queue [.int 2, .null], .flush]

def unused : Except (BatchError String) (History Script String String) :=
  session (Script.executor .numbered) ⟨[], [.error "busy", .ok 2]⟩ 2 "users" users .insertIgnore []

theorem stuck_renewed : ∃ h new, stuck = .ok h ∧ unused = .ok new ∧ h.writer.pending = 2 ∧
    h.state = new.state ∧ h.writer.statement = new.writer.statement ∧
    ∃ h₁ h₂ x steps,
      session (Script.executor .numbered)
        ⟨[], [.error "locked", .error "locked", .error "busy", .ok 2]⟩ 2 "users" users .insertIgnore
        ([.queue [.int 1, .null], .queue [.int 2, .null], .flush] ++ .reset ::
          [.queue [.int 3, .null], .queue [.int 4, .null], .flush]) = .ok h₁ ∧
      session (Script.executor .numbered) ⟨[], [.error "busy", .ok 2]⟩ 2 "users" users .insertIgnore
        [.queue [.int 3, .null], .queue [.int 4, .null], .flush] = .ok h₂ ∧
      h₁.steps = h.steps ++ x :: steps ∧ x.operation = .reset ∧
      List.Forall₂ sameScript.OfSteps steps h₂.steps := by
  have hpast : stuck = .ok _ := rfl
  have hnew : unused = .ok _ := rfl
  obtain ⟨h₁, h₂, x, steps, hrun₁, hrun₂, hsteps, hreset, -, -, hsame, -⟩ :=
    reset_renews (sameScript_ofExecutors .numbered) rfl hpast hnew rfl ⟨rfl, rfl⟩
      [.queue [.int 3, .null], .queue [.int 4, .null], .flush]
  exact ⟨_, _, hpast, hnew, rfl, rfl, rfl, h₁, h₂, x, steps, hrun₁, hrun₂, hsteps, hreset, hsame⟩

end Writer
end RowBatch
