import RowBatch.Statement.Basic
import RowBatch.Wire.Reading

/-!
The marks of a clause read back from its text, tuple by tuple; and the clause as it is written with
positions that have to fit in a machine word.
-/

namespace RowBatch
namespace PlaceholderStyle

def writeTuple (tuple : List String) : String := "(" ++ String.intercalate ", " tuple ++ ")"

def writeTuples (tuples : List (List String)) : String :=
  String.intercalate ", " (tuples.map writeTuple)

mutual

/-- Reads on inside a tuple, with the marks of the tuple so far and the characters of the mark that
is being read. -/
def readMarks (tuple : List String) (mark : List Char) : List Char → Option (List (List String))
  | ')' :: rest => (readFurther rest).map ((tuple ++ [String.ofList mark]) :: ·)
  | ',' :: ' ' :: rest => readMarks (tuple ++ [String.ofList mark]) [] rest
  | c :: rest => readMarks tuple (mark ++ [c]) rest
  | [] => none

def readFurther : List Char → Option (List (List String))
  | [] => some []
  | ',' :: ' ' :: '(' :: rest => readMarks [] [] rest
  | _ => none

end

def readTuples : List Char → Option (List (List String))
  | [] => some []
  | '(' :: rest => readMarks [] [] rest
  | _ => none

def number? (mark : String) : Option Nat :=
  match mark.toList with
  | '$' :: digits => Wire.natural? digits
  | _ => none

def shiftMark (k : Nat) (mark : String) : String :=
  match number? mark with
  | some n => "$" ++ Nat.repr (n + k)
  | none => mark

/-- A clause with `k` added to each of its numbers. -/
def shift? (k : Nat) (clause : String) : Option String :=
  (readTuples clause.toList).map fun tuples => writeTuples (tuples.map (List.map (shiftMark k)))

def fit? (n : Nat) : Option Nat := if n < UInt64.size then some n else none

def placeholder? : PlaceholderStyle → Nat → Option String
  | .questionMark, _ => some "?"
  | .numbered, index => (fit? (index + 1)).map fun n => "$" ++ Nat.repr n

def tuple? (style : PlaceholderStyle) (columns base : Nat) : Option String := do
  let marks ← (List.range columns).mapM fun c => do style.placeholder? (← fit? (base + c))
  return "(" ++ String.intercalate ", " marks ++ ")"

/-- The marks of all rows, if no number overflows on the way. -/
def valuesClause? (style : PlaceholderStyle) (columns rows : Nat) : Option String := do
  let tuples ← (List.range rows).mapM fun r => do style.tuple? columns (← fit? (r * columns))
  return String.intercalate ", " tuples

end PlaceholderStyle
end RowBatch
