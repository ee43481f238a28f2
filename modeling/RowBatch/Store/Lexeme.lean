/-!
The words, marks and literals of a statement's text.
-/

namespace RowBatch
namespace Store

inductive Lexeme where
  | word (text : String)
  | literal (text : String)
  | mark (c : Char)
deriving DecidableEq, Inhabited

namespace Lexeme

def isSpace (c : Char) : Bool :=
  c == ' ' || c == '\t' || c == '\n' || c == '\r' || c == '\x0c'

def isWordChar (c : Char) : Bool :=
  c.isAlphanum || c == '_' || c == '$' || decide (0x80 ≤ c.toNat)

def isMark (c : Char) : Bool := "(),.?=+-*/".contains c

/-- What the reader is in: nothing, a word, a literal, or a literal behind a quote that may have
ended it. What was read of it is in reverse. -/
inductive State where
  | outside
  | word (read : List Char)
  | literal (read : List Char)
  | quote (read : List Char)
deriving DecidableEq

def State.close (lexemes : List Lexeme) : State → List Lexeme
  | .outside | .literal _ => lexemes
  | .word read => .word (String.ofList read.reverse) :: lexemes
  | .quote read => .literal (String.ofList read.reverse) :: lexemes

def readChar (lexemes : List Lexeme) (c : Char) : Option (List Lexeme × State) :=
  if isSpace c then some (lexemes, .outside)
  else if c == '\x27' then some (lexemes, .literal [])
  else if isWordChar c then some (lexemes, .word [c])
  else if isMark c then some (.mark c :: lexemes, .outside)
  else none

/-- Reads a text, being behind `lexemes`, the latest of which comes first. A quote inside a literal
is written twice. -/
def readAll (lexemes : List Lexeme) : State → List Char → Option (List Lexeme)
  | .literal _, [] => none
  | state, [] => some (state.close lexemes).reverse
  | .literal read, c :: rest =>
    if c == '\x27' then readAll lexemes (.quote read) rest
    else readAll lexemes (.literal (c :: read)) rest
  | .quote read, c :: rest =>
    if c == '\x27' then readAll lexemes (.literal (c :: read)) rest
    else
      match readChar (State.close lexemes (.quote read)) c with
      | some (lexemes, state) => readAll lexemes state rest
      | none => none
  | .word read, c :: rest =>
    if isWordChar c then readAll lexemes (.word (c :: read)) rest
    else
      match readChar (State.close lexemes (.word read)) c with
      | some (lexemes, state) => readAll lexemes state rest
      | none => none
  | .outside, c :: rest =>
    match readChar lexemes c with
    | some (lexemes, state) => readAll lexemes state rest
    | none => none

def ofText? (text : String) : Option (List Lexeme) := readAll [] .outside text.toList

def reserved : List String :=
  ["ADD", "ALL", "ALTER", "AND", "AS", "AUTOINCREMENT", "BETWEEN", "CASE", "CHECK", "COLLATE",
    "COMMIT", "CONSTRAINT", "CREATE", "DEFAULT", "DEFERRABLE", "DELETE", "DISTINCT", "DROP",
    "ELSE", "ESCAPE", "EXCEPT", "EXISTS", "FOREIGN", "FROM", "GROUP", "HAVING", "IN", "INDEX",
    "INSERT", "INTERSECT", "INTO", "IS", "ISNULL", "JOIN", "LIMIT", "NOT", "NOTHING", "NOTNULL",
    "NULL", "ON", "OR", "ORDER", "PRIMARY", "REFERENCES", "RETURNING", "SELECT", "SET", "TABLE",
    "THEN", "TO", "TRANSACTION", "UNION", "UNIQUE", "UPDATE", "USING", "VALUES", "WHEN", "WHERE"]

def isKeyword (keyword text : String) : Bool := text.toUpper == keyword

/-- A word that can be a name: it starts with no digit or dollar sign and is not reserved. -/
def isName (text : String) : Bool :=
  (text.toList.head?.all fun c => !c.isDigit && c != '$') && !reserved.contains text.toUpper

def name? : Lexeme → Option String
  | .word text => if isName text then some text else none
  | _ => none

end Lexeme
end Store
end RowBatch
