import RowBatch.Environment.Basic
import RowBatch.Text.Basic
import RowBatch.Text.Word

/-!
Files that set variables, one `NAME=value` a line, and the connection that the variables tell. A
file never changes a variable that has a text for its value, and is read up to the first line that
is no setting. A value that the system can not keep ends the process.
-/

namespace RowBatch
namespace Environment

/-- Where the reader of a value is. In the last two states it reads the name of a variable whose
value is put in, the name so far in reverse. -/
inductive ValueState where
  | plain
  | quoted
  | escape (quoted : Bool)
  | literal
  | ended
  | name (quoted : Bool) (read : List Char)
  | bracedName (quoted : Bool) (read : List Char)
deriving DecidableEq

namespace ValueState

def unquotedIf (quoted : Bool) : ValueState := if quoted then .quoted else .plain

end ValueState

def valueOf (env : Environment) (read : List Char) : List Char :=
  ((env.get? (String.ofList read.reverse)).getD "").toList

/-- Reads a value. Single quotes keep everything as it is; elsewhere a backslash escapes, and a
dollar sign puts a variable in. A blank outside quotes ends the value, and only a comment may
follow. -/
def readValue (env : Environment) : ValueState → List Char → Option (List Char)
  | .plain, [] | .escape false, [] | .ended, [] => some []
  | .name false read, [] => some (valueOf env read)
  | .quoted, [] | .literal, [] | .escape true, [] | .name true _, [] | .bracedName _ _, [] => none
  | .plain, c :: rest =>
    if c = '$' then readValue env (.name false []) rest
    else if c = '\x27' then readValue env .literal rest
    else if c = '\x22' then readValue env .quoted rest
    else if c = '\\' then readValue env (.escape false) rest
    else if c = ' ' ∨ c = '\t' then readValue env .ended rest
    else (readValue env .plain rest).map (c :: ·)
  | .quoted, c :: rest =>
    if c = '$' then readValue env (.name true []) rest
    else if c = '\x22' then readValue env .plain rest
    else if c = '\\' then readValue env (.escape true) rest
    else (readValue env .quoted rest).map (c :: ·)
  | .escape quoted, c :: rest =>
    if c = 'n' then (readValue env (.unquotedIf quoted) rest).map ('\n' :: ·)
    else if c = '\\' ∨ c = '\x27' ∨ c = '\x22' ∨ c = '$' ∨ c = ' ' then
      (readValue env (.unquotedIf quoted) rest).map (c :: ·)
    else none
  | .literal, c :: rest =>
    if c = '\x27' then readValue env .plain rest else (readValue env .literal rest).map (c :: ·)
  | .ended, c :: rest =>
    if c = ' ' ∨ c = '\t' then readValue env .ended rest
    else if c = '#' then some []
    else none
  | .name quoted read, c :: rest =>
    if Text.isWordChar c then readValue env (.name quoted (c :: read)) rest
    else if c = '\x7b' ∧ read = [] then readValue env (.bracedName quoted []) rest
    else if c = '$' then (readValue env (.name quoted []) rest).map (valueOf env read ++ ·)
    else (readValue env (.unquotedIf quoted) rest).map (valueOf env read ++ c :: ·)
  | .bracedName quoted read, c :: rest =>
    if c = '\x7d' then
      (readValue env (.unquotedIf quoted) rest).map (valueOf env read ++ ·)
    else readValue env (.bracedName quoted (c :: read)) rest

inductive Line where
  | nothing
  | define (name : String) (value : String)
  | malformed
deriving DecidableEq

namespace Line

def isNameChar (c : Char) : Bool := c.isAlphanum || c == '_' || c == '.'

def readName (cs : List Char) : Option (List Char × List Char) :=
  match cs with
  | [] => none
  | c :: _ =>
    if c.isAlpha || c == '_' then
      some (cs.takeWhile isNameChar, (cs.dropWhile isNameChar).dropWhile Text.isWhiteSpace)
    else none

def readSetting (env : Environment) (name : List Char) (cs : List Char) : Line :=
  let cs := cs.dropWhile Text.isWhiteSpace
  if cs.isEmpty || cs.head? == some '#' then .define (String.ofList name) ""
  else
    match readValue env .plain cs with
    | some value => .define (String.ofList name) (String.ofList value)
    | none => .malformed

/-- Reads a line. The word `export` may stand before the name; it is a name itself when an equals
sign follows it. -/
def read (env : Environment) (line : List Char) : Line :=
  let cs := Text.trim line
  if cs.isEmpty || cs.head? == some '#' then .nothing
  else
    match readName cs with
    | none => .malformed
    | some (name, '=' :: rest) => readSetting env name rest
    | some (name, rest) =>
      if String.ofList name = "export" then
        match readName rest with
        | some (name, '=' :: rest) => readSetting env name rest
        | _ => .malformed
      else .malformed

def ofBytes (env : Environment) (line : List UInt8) : Line :=
  match String.fromUTF8? ⟨line.toArray⟩ with
  | some text => read env text.toList
  | none => .malformed

end Line

/-- Applies lines in order, up to the first that is malformed. -/
def applyLines : Environment → List (List UInt8) → Except Panic Environment
  | env, [] => .ok env
  | env, line :: rest =>
    match Line.ofBytes env line with
    | .nothing => applyLines env rest
    | .define name value =>
      match env.define name value with
      | .ok env => applyLines env rest
      | .error panic => .error panic
    | .malformed => .ok env

/-- The environment with what a file sets, if there is one. -/
def load (env : Environment) (file : Option ByteArray) : Except Panic Environment :=
  match file with
  | none => .ok env
  | some bytes => applyLines env (bytes.data.toList.splitOn 10)

def databaseVariable : String := "DATABASE_URL"

def defaultDatabasePath : String := "./bulkdb.db"

/-- The connection string of a server. -/
def serverConnection (env : Environment) (settings : Option ByteArray) :
    Except Panic (Except LookupError String) :=
  (env.load settings).map fun env => env.find databaseVariable

/-- The path of a database file. -/
def fileConnection (env : Environment) (settings : Option ByteArray) : Except Panic String :=
  (env.load settings).map fun env => (env.get? databaseVariable).getD defaultDatabasePath

end Environment

inductive ConnectionError where
  | configuration (cause : Environment.LookupError)
  | unreachable
deriving DecidableEq

namespace ConnectionError

def message (quote : List UInt8 → String) : ConnectionError → String
  | .configuration cause =>
    "The database connection string is wrong please check your environment: " ++
      cause.message quote
  | .unreachable =>
    "Can not connect to the database please make sure your connection string is correct"

/-- The error of an attempt that reaches no server. Without a connection string of its own it takes
that of the environment, and fails when there is none. -/
def ofAttempt (env : Environment) (settings : Option ByteArray) (connection : Option String) :
    Except Environment.Panic ConnectionError :=
  match connection with
  | some _ => .ok .unreachable
  | none =>
    (env.serverConnection settings).map fun
      | .ok _ => .unreachable
      | .error cause => .configuration cause

end ConnectionError
end RowBatch
