/-!
The variables that are set for a process, how they are looked up and how more are set.
-/

namespace RowBatch
namespace Environment

/-- What a variable is set to: a text, or bytes that are none. -/
inductive Content where
  | text (value : String)
  | bytes (value : List UInt8)
deriving DecidableEq

inductive LookupError where
  | notPresent
  | notUnicode (value : List UInt8)
deriving DecidableEq

namespace LookupError

/-- The message. How bytes that are no text are shown is left to the caller. -/
def message (quote : List UInt8 → String) : LookupError → String
  | .notPresent => "environment variable not found"
  | .notUnicode value => "environment variable was not valid unicode: " ++ quote value

end LookupError
end Environment

/-- The variables with what they are set to. Of two settings of one name the first counts. -/
abbrev Environment := List (String × Environment.Content)

namespace Environment

def find (env : Environment) (name : String) : Except LookupError String :=
  match List.lookup name env with
  | some (.text value) => .ok value
  | some (.bytes value) => .error (.notUnicode value)
  | none => .error .notPresent

def get? (env : Environment) (name : String) : Option String := (env.find name).toOption

/-- The system can keep a variable of this name with this value. -/
def IsSettable (name value : String) : Prop :=
  name ≠ "" ∧ '=' ∉ name.toList ∧ '\x00' ∉ name.toList ∧ '\x00' ∉ value.toList

instance (name value : String) : Decidable (IsSettable name value) :=
  inferInstanceAs (Decidable (_ ∧ _))

inductive Panic where
  | notSettable (name value : String)
deriving DecidableEq

def set (env : Environment) (name value : String) : Except Panic Environment :=
  if IsSettable name value then .ok ((name, .text value) :: env)
  else .error (.notSettable name value)

/-- Sets a variable that has no text for its value yet. -/
def define (env : Environment) (name value : String) : Except Panic Environment :=
  if (env.get? name).isSome then .ok env else env.set name value

end Environment
end RowBatch
