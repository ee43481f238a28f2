import RowBatch.Store.Lexeme
import RowBatch.Update.Rule

/-!
The statements that the store understands, and how they are read. Names of tables may have the name
of a schema before them.
-/

namespace RowBatch
namespace Store

abbrev Path := List String

def pathText (path : Path) : String := String.intercalate "." path

/-- The right side of an assignment: a reference to a column, alone or combined with another. -/
structure Operation (α : Type) where
  left : α
  combined : Option (Operator × α)
deriving DecidableEq, Inhabited

structure Assignment (κ α : Type) where
  column : κ
  value : Operation α
deriving DecidableEq, Inhabited

inductive OnConflict where
  | fail
  | skip
  | update (target : List String) (assignments : List (Assignment String Path))
deriving DecidableEq, Inhabited

structure Insertion where
  table : Path
  columns : List String
  rows : Nat
  onConflict : OnConflict
  returning : List String
deriving DecidableEq, Inhabited

inductive Definition where
  | column (name : String) (isInteger isPrimary isNotNull : Bool)
  | primaryKey (columns : List String)
  | unique (columns : List String)
deriving DecidableEq, Inhabited

inductive Query where
  | insert (insertion : Insertion)
  | create (table : Path) (definitions : List Definition)
  | drop (table : Path)
deriving DecidableEq, Inhabited

namespace Query

def parameters : Query → Nat
  | .insert i => i.rows * i.columns.length
  | .create _ _ | .drop _ => 0

open Lexeme (isKeyword name?)

def readKeyword (keyword : String) : List Lexeme → Option (List Lexeme)
  | .word text :: rest => if isKeyword keyword text then some rest else none
  | _ => none

def readKeywords : List String → List Lexeme → Option (List Lexeme)
  | [], rest => some rest
  | keyword :: more, rest => (readKeyword keyword rest).bind (readKeywords more)

def readMark (c : Char) : List Lexeme → Option (List Lexeme)
  | .mark d :: rest => if d == c then some rest else none
  | _ => none

def readNames (joint : Char) : List Lexeme → Option (List String × List Lexeme)
  | first :: .mark c :: rest =>
    match name? first with
    | none => none
    | some name =>
      if c == joint then (readNames joint rest).map fun (names, rest) => (name :: names, rest)
      else some ([name], .mark c :: rest)
  | first :: rest => (name? first).map fun name => ([name], rest)
  | [] => none

def readPath : List Lexeme → Option (Path × List Lexeme) := readNames '.'

/-- Reads the path of a table, which has a schema's name in it at most. -/
def readTable (lexemes : List Lexeme) : Option (Path × List Lexeme) := do
  let (path, rest) ← readPath lexemes
  if path.length ≤ 2 then some (path, rest) else none

def readColumns (lexemes : List Lexeme) : Option (List String × List Lexeme) := do
  let (columns, rest) ← readNames ',' (← readMark '(' lexemes)
  return (columns, ← readMark ')' rest)

/-- Reads rows of `arity` parameters each, being behind `marks` marks of a row and behind `rows`
whole rows. -/
def readRows (arity : Nat) : Nat → Nat → List Lexeme → Option (Nat × List Lexeme)
  | rows, marks, .mark '?' :: .mark ',' :: rest => readRows arity rows (marks + 1) rest
  | rows, marks, .mark '?' :: .mark ')' :: .mark ',' :: .mark '(' :: rest =>
    if marks + 1 = arity then readRows arity (rows + 1) 0 rest else none
  | rows, marks, .mark '?' :: .mark ')' :: rest =>
    if marks + 1 = arity then some (rows + 1, rest) else none
  | _, _, _ => none

/-- Reads a reference to a column by a path of two names or more. -/
def readReference (lexemes : List Lexeme) : Option (Path × List Lexeme) := do
  let (path, rest) ← readPath lexemes
  if 2 ≤ path.length then some (path, rest) else none

def readOperand (lexemes : List Lexeme) : Option (Option (Operator × Path) × List Lexeme) :=
  match lexemes with
  | .mark c :: rest =>
    match Operator.ofSymbol c none with
    | .ok operator => (readReference rest).map fun (path, rest) => (some (operator, path), rest)
    | .error _ => some (none, lexemes)
  | _ => some (none, lexemes)

def readConcatenation (lexemes : List Lexeme) : Option (Operation Path × List Lexeme) :=
  match lexemes with
  | .mark '(' :: .literal delimiter :: .mark ',' :: rest => do
    let (left, rest) ← readReference rest
    let (operand, rest) ← readReference (← readMark ',' rest)
    let rest ← readMark ')' rest
    match delimiter.toList with
    | [c] => some (⟨left, some (.concat c, operand)⟩, rest)
    | _ => none
  | _ => none

def readOperation (lexemes : List Lexeme) : Option (Operation Path × List Lexeme) :=
  match lexemes with
  | .word text :: .mark '(' :: rest =>
    if isKeyword "CONCAT_WS" text then readConcatenation (.mark '(' :: rest) else none
  | _ => do
    let (left, rest) ← readReference lexemes
    let (combined, rest) ← readOperand rest
    return (⟨left, combined⟩, rest)

def readAssignments : Nat → List Lexeme → Option (List (Assignment String Path))
  | 0, _ => none
  | limit + 1, lexemes =>
    match lexemes with
    | first :: .mark '=' :: rest =>
      match name? first, readOperation rest with
      | some column, some (value, []) => some [⟨column, value⟩]
      | some column, some (value, .mark ',' :: rest) =>
        (readAssignments limit rest).map (⟨column, value⟩ :: ·)
      | _, _ => none
    | _ => none

def readTail (lexemes : List Lexeme) : Option (OnConflict × List String) :=
  match lexemes with
  | [] => some (.fail, [])
  | .word _ :: .word _ :: .mark _ :: _ => do
    let (target, rest) ← readColumns (← readKeywords ["ON", "CONFLICT"] lexemes)
    let rest ← readKeywords ["DO", "UPDATE", "SET"] rest
    return (.update target (← readAssignments rest.length rest), [])
  | _ => do
    match ← readKeywords ["ON", "CONFLICT", "DO", "NOTHING"] lexemes with
    | [] => some (.skip, [])
    | rest =>
      match ← readNames ',' (← readKeyword "RETURNING" rest) with
      | (returning, []) => some (.skip, returning)
      | _ => none

def readInsertion (lexemes : List Lexeme) : Option Insertion := do
  let (table, rest) ← readTable (← readKeywords ["INSERT", "INTO"] lexemes)
  let (columns, rest) ← readColumns rest
  let rest ← readMark '(' (← readKeyword "VALUES" rest)
  let (rows, rest) ← readRows columns.length 0 0 rest
  let (onConflict, returning) ← readTail rest
  return ⟨table, columns, rows, onConflict, returning⟩

def readOptional (keywords : List String) (lexemes : List Lexeme) : Bool × List Lexeme :=
  match readKeywords keywords lexemes with
  | some rest => (true, rest)
  | none => (false, lexemes)

def readDefinition (lexemes : List Lexeme) : Option (Definition × List Lexeme) :=
  match readKeywords ["PRIMARY", "KEY"] lexemes, readKeyword "UNIQUE" lexemes with
  | some rest, _ => (readColumns rest).map fun (columns, rest) => (.primaryKey columns, rest)
  | none, some rest => (readColumns rest).map fun (columns, rest) => (.unique columns, rest)
  | none, none =>
    match lexemes with
    | [] => none
    | first :: rest =>
      (name? first).map fun name =>
        let (isInteger, rest) := readOptional ["INTEGER"] rest
        let (isPrimary, rest) := readOptional ["PRIMARY", "KEY"] rest
        let (isNotNull, rest) := readOptional ["NOT", "NULL"] rest
        (.column name isInteger isPrimary isNotNull, rest)

def readDefinitions : Nat → List Lexeme → Option (List Definition)
  | 0, _ => none
  | limit + 1, lexemes =>
    match readDefinition lexemes with
    | some (definition, [.mark ')']) => some [definition]
    | some (definition, .mark ',' :: rest) => (readDefinitions limit rest).map (definition :: ·)
    | _ => none

def readCreation (lexemes : List Lexeme) : Option Query := do
  let (table, rest) ← readTable (← readKeywords ["CREATE", "TABLE"] lexemes)
  let rest ← readMark '(' rest
  return .create table (← readDefinitions rest.length rest)

def readRemoval (lexemes : List Lexeme) : Option Query := do
  match ← readTable (← readKeywords ["DROP", "TABLE"] lexemes) with
  | (table, []) => some (.drop table)
  | _ => none

def ofLexemes? (lexemes : List Lexeme) : Option Query :=
  ((readInsertion lexemes).map .insert).or ((readCreation lexemes).or (readRemoval lexemes))

def ofText? (text : String) : Option Query := (Lexeme.ofText? text).bind ofLexemes?

end Query
end Store
end RowBatch
