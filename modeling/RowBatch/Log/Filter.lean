import RowBatch.Text.Basic
import RowBatch.Text.Word
import RowBatch.Log.Record

/-!
Filters decide by target and level which records are shown. Of the directives that cover a target
the one with the longest target decides, and of two with the same target the later one.
-/

namespace RowBatch
namespace Log

def rootTarget : String := "bulkdb"

inductive Limit where
  | off
  | upTo (level : Level)
deriving DecidableEq, Inhabited

namespace Limit

def verbosity : Limit → Nat
  | .off => 0
  | .upTo level => level.verbosity

def allows (limit : Limit) (level : Level) : Bool :=
  decide (level.verbosity ≤ limit.verbosity)

def ofVerbosity? : Nat → Option Limit
  | 0 => some .off
  | 1 => some (.upTo .error)
  | 2 => some (.upTo .warn)
  | 3 => some (.upTo .info)
  | 4 => some (.upTo .debug)
  | 5 => some (.upTo .trace)
  | _ => none

def numeral? (cs : List Char) : Option Nat :=
  let digits := match cs with
    | '+' :: rest => rest
    | _ => cs
  if digits.isEmpty || !digits.all Char.isDigit then none
  else some (digits.foldl (fun n c => 10 * n + (c.toNat - '0'.toNat)) 0)

def ofText? (cs : List Char) : Option Limit :=
  match (numeral? cs).bind ofVerbosity? with
  | some limit => some limit
  | none =>
    match String.ofList (cs.map Char.toLower) with
    | "off" => some .off
    | "error" => some (.upTo .error)
    | "warn" => some (.upTo .warn)
    | "info" => some (.upTo .info)
    | "debug" => some (.upTo .debug)
    | "trace" => some (.upTo .trace)
    | _ => none

end Limit

/-- A limit for the targets that start with a given one, or for all targets. -/
structure Directive where
  target? : Option String
  limit : Limit
deriving DecidableEq, Inhabited

inductive DirectiveError where
  | invalidDirective
  | invalidLevel
deriving DecidableEq

namespace DirectiveError

def message : DirectiveError → String
  | .invalidDirective => "invalid filter directive"
  | .invalidLevel =>
    "error parsing level filter: expected one of \"off\", \"error\", \"warn\", \"info\", " ++
      "\"debug\", \"trace\", or a number 0-5"

end DirectiveError

namespace Directive

def canStart (c : Char) : Bool :=
  Text.isWordChar c || c == '-' || c == ':' || c == '_'

/-- The limit after the equals sign. An empty one shows everything. -/
def limitOf (cs : List Char) : Except DirectiveError Limit :=
  if cs.isEmpty then .ok (.upTo .trace)
  else
    match Limit.ofText? cs with
    | some limit => .ok limit
    | none => .error .invalidLevel

def limitAfterSpan (cs : List Char) : Except DirectiveError Limit :=
  match Text.cutAt (· == ']') cs with
  | none => .error .invalidDirective
  | some (_, _, []) => .ok (.upTo .trace)
  | some (_, _, '=' :: level) => limitOf level
  | some _ => .error .invalidDirective

/-- Reads `level`, `target` or `target=level`. A directive for a span in brackets is read, but as no
record is made inside a span it covers none and gives nothing. -/
def parse (cs : List Char) : Except DirectiveError (Option Directive) :=
  match cs with
  | [] => .error .invalidDirective
  | '[' :: rest => (limitAfterSpan rest).map fun _ => none
  | c :: _ =>
    if !canStart c then .error .invalidDirective
    else
      match Text.cutAt (fun c => c == '=' || c == '[') cs with
      | none =>
        match Limit.ofText? cs with
        | some limit => .ok (some ⟨none, limit⟩)
        | none => .ok (some ⟨some (String.ofList cs), .upTo .trace⟩)
      | some (target, '=', level) =>
        (limitOf level).map fun limit => some ⟨some (String.ofList target), limit⟩
      | some (_, _, rest) => (limitAfterSpan rest).map fun _ => none

def covers (d : Directive) (target : String) : Bool :=
  match d.target? with
  | none => true
  | some start => start.toList.isPrefixOf target.toList

def weight (d : Directive) : Nat :=
  match d.target? with
  | none => 0
  | some start => start.length + 1

end Directive

abbrev Filter := List Directive

namespace Filter

/-- The directive that decides about a target. -/
def deciding? (target : String) : Filter → Option Directive
  | [] => none
  | d :: later =>
    match deciding? target later with
    | none => if d.covers target then some d else none
    | some e => if d.covers target && decide (e.weight < d.weight) then some d else some e

def enabled (f : Filter) (target : String) (level : Level) : Bool :=
  match deciding? target f with
  | none => false
  | some d => d.limit.allows level

def pieces (extra : String) : List (List Char) :=
  ((extra.toList.splitOn ',').map Text.trim).filter fun piece => !piece.isEmpty

/-- The directives that can be read, and a report for each other piece. -/
def readPieces : List (List Char) → Filter × List Record
  | [] => ([], [])
  | piece :: rest =>
    let tail := readPieces rest
    match Directive.parse piece with
    | .ok (some d) => (d :: tail.1, tail.2)
    | .ok none => tail
    | .error e =>
      (tail.1, ⟨.debug, .logger,
        "Ignoring log directive " ++ String.ofList piece ++ ": " ++ e.message⟩ :: tail.2)

/-- A filter that shows the library's own records up to a limit, and what the extra directives add
or change. -/
def ofExtra (limit : Limit) (extra : Option String) : Filter × List Record :=
  let read := readPieces (pieces (extra.getD ""))
  (⟨some rootTarget, limit⟩ :: read.1, read.2)

end Filter

/-- The filter that was set up, if any. Without one nothing is shown. -/
abbrev Logger := Option Filter

namespace Logger

def shows (l : Logger) (r : Record) : Bool :=
  match l with
  | none => false
  | some f => f.enabled r.source.target r.level

/-- Sets up a filter, unless there is one; gives the records that are shown on the way. -/
def setup (l : Logger) (limit : Limit) (extra : Option String) : Logger × List Record :=
  let (filter, ignored) := Filter.ofExtra limit extra
  let shown := ignored.filter l.shows
  match l with
  | none => (some filter, shown)
  | some f =>
    let kept : Record :=
      ⟨.debug, .logger, "A global subscriber is already installed, keeping it"⟩
    (some f, shown ++ [kept].filter (shows (some f)))

end Logger
end Log
end RowBatch
