import RowBatch.Environment.Basic
import RowBatch.Text.Basic

/-!
References to variables inside a text. A reference starts with a dollar sign and an opening brace,
and its name, of one or more characters, goes up to the next closing brace.
-/

namespace RowBatch
namespace Environment

inductive Piece where
  | char (c : Char)
  | reference (name : List Char)
deriving DecidableEq

namespace Piece

/-- The name that a text right after an opening brace starts with, and what follows the closing
brace. -/
def readName? (cs : List Char) : Option (List Char × List Char) :=
  match Text.cutAt (· == '\x7d') cs with
  | some ([], _, _) | none => none
  | some (name, _, rest) => some (name, rest)

theorem length_lt_of_readName? {cs name rest : List Char} (h : readName? cs = some (name, rest)) :
    rest.length < cs.length := by
  unfold readName? at h
  split at h
  · simp at h
  · simp at h
  · rename_i name' mark rest' _ hcut
    obtain ⟨rfl, rfl⟩ := Prod.mk.injEq .. ▸ Option.some.inj h
    obtain ⟨rfl, -, -⟩ := Text.cutAt_eq_some_iff.mp hcut
    simp only [List.length_append, List.length_cons]
    omega

/-- Reads a text from the left as the matches of the pattern `\$\{([^}]+)\}`, each the leftmost one
that starts where the match before it has ended, and the characters between them. What looks like
the start of a reference and has no name or no end is no match, so it is ordinary text. -/
def ofText (cs : List Char) : List Piece :=
  match cs with
  | [] => []
  | '$' :: '\x7b' :: rest =>
    match _h : readName? rest with
    | some (name, after) => .reference name :: ofText after
    | none => .char '$' :: ofText ('\x7b' :: rest)
  | c :: rest => .char c :: ofText rest
termination_by cs.length
decreasing_by
  · have := length_lt_of_readName? _h
    simp
    omega
  · simp
  · simp

def missing? (env : Environment) : Piece → Option String
  | .char _ => none
  | .reference name =>
    let name := String.ofList name
    if (env.get? name).isSome then none else some name

def expand (env : Environment) : Piece → List Char
  | .char c => [c]
  | .reference name => ((env.get? (String.ofList name)).getD "").toList

end Piece

def missing (env : Environment) (text : String) : List String :=
  (Piece.ofText text.toList).filterMap (Piece.missing? env)

/-- The text with the value of its variable in the place of every reference. The values are not read
again. -/
def expand (env : Environment) (text : String) : String :=
  String.ofList ((Piece.ofText text.toList).flatMap (Piece.expand env))

end Environment
end RowBatch
