import RowBatch.Markup.Event
import RowBatch.Markup.Token.Lexer

/-!
The document of a text. If the text is malformed, it holds the events in front of the fault.
-/

namespace RowBatch
namespace Markup

/-- Where a reader of tokens is: in front of the document, among its directives, inside it, behind
it, or at the end of the text. -/
inductive Phase where
  | start
  | prologue (versioned : Bool) (handles : Handles)
  | body (handles : Handles) (stack : List Expectation)
  | after
  | finished
deriving DecidableEq

namespace Phase

/-- Shows a token to a stack. The answer is what is left of the stack and whether the token was
taken. -/
def descend (handles : Handles) :
    List Expectation → Token → List NamedEvent × Option (List Expectation × Bool)
  | [], _ => ([], some ([], false))
  | e :: stack, t =>
    match e.react handles t with
    | (events, .shift following) => (events, some (following ++ stack, true))
    | (events, .refuse) => (events, none)
    | (events, .pass) =>
      let (more, next) := descend handles stack t
      (events ++ more, next)

def stepAfter (t : Token) : Option Phase :=
  match t with
  | .documentEnd => some .after
  | .streamEnd => some .finished
  | _ => none

def stepBody (handles : Handles) (stack : List Expectation) (t : Token) :
    List NamedEvent × Option Phase :=
  match descend handles stack t with
  | (events, none) => (events, none)
  | (events, some (_, false)) => (events, stepAfter t)
  | (events, some ([], true)) => (events, some .after)
  | (events, some (stack, true)) => (events, some (.body handles stack))

def stepPrologue (versioned : Bool) (handles : Handles) (t : Token) : Option Phase :=
  match t with
  | .versionDirective major minor =>
    if !versioned && major == 1 && (minor == 1 || minor == 2) then some (.prologue true handles)
    else none
  | .tagDirective handle lead =>
    if (List.lookup handle handles).isSome then none
    else some (.prologue versioned ((handle, lead) :: handles))
  | .documentStart => some (.body (handles ++ Handles.standard) [.node .content .none])
  | _ => none

def step (phase : Phase) (t : Token) : List NamedEvent × Option Phase :=
  match phase with
  | .start =>
    match t with
    | .streamEnd => ([], some .finished)
    | .versionDirective _ _ | .tagDirective _ _ | .documentStart => ([], stepPrologue false [] t)
    | _ => stepBody Handles.standard [.node .root .none] t
  | .prologue versioned handles => ([], stepPrologue versioned handles t)
  | .body handles stack => stepBody handles stack t
  | .after => ([], stepAfter t)
  | .finished => ([], none)

/-- The events of a list of tokens, and whether the end of the text was reached. -/
def run : Phase → List Token → List NamedEvent × Bool
  | phase, [] => ([], decide (phase = .finished))
  | phase, t :: rest =>
    match phase.step t with
    | (events, none) => (events, false)
    | (events, some phase) =>
      let (more, reached) := run phase rest
      (events ++ more, reached)

end Phase

structure Document where
  events : List (Event Nat)
  /-- Whether the text held the document and nothing else. -/
  sound : Bool
deriving DecidableEq, Inhabited

namespace Document

/-- Numbers the anchors. The number of an anchor is that of the names known at its definition, so
that one defined anew may share its number with another. An alias without an anchor is a fault. -/
def number (known : List (List Char × Nat)) : List NamedEvent → List (Event Nat) × Bool
  | [] => ([], true)
  | .alias name :: rest =>
    match List.lookup name known with
    | none => ([], false)
    | some n =>
      let (events, sound) := number known rest
      (.alias n :: events, sound)
  | e :: rest =>
    let n := known.length
    let known := match e.anchor? with
      | none => known
      | some name => (name, n) :: known.filter (·.1 != name)
    let (events, sound) := number known rest
    ((e.withAnchor (e.anchor?.map fun _ => n)).toList ++ events, sound)

def ofText (text : List Char) : Document :=
  let (events, reached) := Phase.start.run (Token.ofText text)
  let (events, numbered) := number [] events
  ⟨events, reached && numbered⟩

/-- The events from the latest one with an anchor on. -/
def from? (anchor : Nat) : List (Event Nat) → Option (List (Event Nat))
  | [] => none
  | e :: rest =>
    match from? anchor rest with
    | some found => some found
    | none => if e.anchor? = some anchor then some (e :: rest) else none

def target? (d : Document) (anchor : Nat) : Option (List (Event Nat)) := from? anchor d.events

end Document
end Markup
end RowBatch
