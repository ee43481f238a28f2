import RowBatch.Statement.Basic
import RowBatch.Value

/-!
What a writer needs of a database: it prepares statement texts and executes prepared statements.
An executor is given by what each request does to its state and what it answers, so that any
pattern of failures is an executor. What a statement keeps between its executions is part of that
state. Adapters stand in front of an executor and pass its requests on.
-/

namespace RowBatch

/-- An executor with states `σ`, prepared statements `η` and errors `ε`. -/
structure Executor (σ η ε : Type) where
  style : PlaceholderStyle
  prepare : σ → String → σ × Except ε η
  /-- Prepares a statement that is executed at most once. -/
  prepareTransient : σ → String → σ × Except ε η
  execute : σ → η → List Value → σ × Except ε UInt64

/-- A request to an executor, with its answer. -/
inductive Call (η ε : Type) where
  | prepare (text : String) (answer : Except ε η)
  | prepareTransient (text : String) (answer : Except ε η)
  | execute (statement : η) (parameters : List Value) (answer : Except ε UInt64)

namespace Executor

variable {σ τ η ε : Type}

/-- The executor used only for what every executor must have: it has question marks, and prepares
transient statements like all others. -/
def basic (e : Executor σ η ε) : Executor σ η ε where
  style := .questionMark
  prepare := e.prepare
  prepareTransient := e.prepare
  execute := e.execute

/-- The executor on a part of a larger state, which every request is passed on to. -/
def onPart (part : τ → σ) (update : τ → σ → τ) (e : Executor σ η ε) : Executor τ η ε where
  style := e.style
  prepare := fun t text =>
    let (s, answer) := e.prepare (part t) text
    (update t s, answer)
  prepareTransient := fun t text =>
    let (s, answer) := e.prepareTransient (part t) text
    (update t s, answer)
  execute := fun t statement parameters =>
    let (s, answer) := e.execute (part t) statement parameters
    (update t s, answer)

/-- The same executor, keeping the list of its calls, the latest first. -/
def recorded (e : Executor σ η ε) : Executor (σ × List (Call η ε)) η ε where
  style := e.style
  prepare := fun (s, calls) text =>
    let (s, answer) := e.prepare s text
    ((s, .prepare text answer :: calls), answer)
  prepareTransient := fun (s, calls) text =>
    let (s, answer) := e.prepareTransient s text
    ((s, .prepareTransient text answer :: calls), answer)
  execute := fun (s, calls) statement parameters =>
    let (s, answer) := e.execute s statement parameters
    ((s, .execute statement parameters answer :: calls), answer)

end Executor

variable {σ η ε ε' : Type}

namespace Call

def mapError (f : ε → ε') : Call η ε → Call η ε'
  | .prepare text answer => .prepare text (answer.mapError f)
  | .prepareTransient text answer => .prepareTransient text (answer.mapError f)
  | .execute statement parameters answer => .execute statement parameters (answer.mapError f)

def asPrepare : Call η ε → Call η ε
  | .prepareTransient text answer => .prepare text answer
  | call => call

end Call

namespace Executor

def mapError (f : ε → ε') (e : Executor σ η ε) : Executor σ η ε' where
  style := e.style
  prepare := fun s text => ((e.prepare s text).1, (e.prepare s text).2.mapError f)
  prepareTransient := fun s text =>
    ((e.prepareTransient s text).1, (e.prepareTransient s text).2.mapError f)
  execute := fun s statement parameters =>
    ((e.execute s statement parameters).1, (e.execute s statement parameters).2.mapError f)

/-- An executor behind references, each of which refers to the place of the next. Nobody else
changes what is kept there, so a place holds what was last put into it. -/
inductive Behind (e : Executor σ η ε) : {τ : Type} → Executor τ η ε → (τ → σ) → Prop
  | owned : Behind e e id
  | reference {τ υ : Type} {outer : Executor τ η ε} {part : τ → σ} (h : Behind e outer part)
      (place : υ → τ) (update : υ → τ → υ) (hplace : ∀ u t, place (update u t) = t) :
      Behind e (outer.onPart place update) (part ∘ place)

end Executor

/-- The answers that are left. A script that has run out prepares everything, and counts the
parameters of what it executes. -/
structure Script where
  prepare : List (Except String Unit)
  execute : List (Except String UInt64)

namespace Script

def answerPrepare (s : Script) (text : String) : Script × Except String String :=
  match s.prepare with
  | [] => (s, .ok text)
  | answer :: rest => ({ s with prepare := rest }, answer.map fun _ => text)

def answerExecute (s : Script) (_ : String) (parameters : List Value) :
    Script × Except String UInt64 :=
  match s.execute with
  | [] => (s, .ok (UInt64.ofNat parameters.length))
  | answer :: rest => ({ s with execute := rest }, answer)

def executor (style : PlaceholderStyle) : Executor Script String String where
  style := style
  prepare := answerPrepare
  prepareTransient := answerPrepare
  execute := answerExecute

end Script
end RowBatch
