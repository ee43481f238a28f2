import RowBatch.Number.Shortest
import RowBatch.Value
import RowBatch.Wire.Numeric
import RowBatch.Wire.Parameter

/-!
Binding a value to a parameter: the value is written in the encoding of the parameter's type, or
refused. What was written stays in the message, also when a later step fails.
-/

namespace RowBatch
namespace Wire

/-- A step in the writing of a message, which may fail. -/
abbrev Writing (ε α : Type) := ExceptT ε (StateM (List UInt8)) α

namespace Writing

variable {ε α β : Type}

def put (bytes : List UInt8) : Writing ε Unit := modify (· ++ bytes)

/-- The message after a step that found `message`, and what came of the step. -/
def onto (step : Writing ε α) (message : List UInt8) : List UInt8 × Except ε α :=
  let (answer, written) := (ExceptT.run step).run message
  (written, answer)

@[simp] theorem onto_put (bytes message : List UInt8) :
    (put bytes : Writing ε Unit).onto message = (message ++ bytes, .ok ()) := rfl

@[simp] theorem onto_pure (a : α) (message : List UInt8) :
    (pure a : Writing ε α).onto message = (message, .ok a) := rfl

@[simp] theorem onto_throw (e : ε) (message : List UInt8) :
    (throw e : Writing ε α).onto message = (message, .error e) := rfl

@[simp] theorem onto_lift (x : Except ε α) (message : List UInt8) :
    (liftM x : Writing ε α).onto message = (message, x) := rfl

theorem onto_bind (step : Writing ε α) (next : α → Writing ε β) (message : List UInt8) :
    (step >>= next).onto message =
      match step.onto message with
      | (written, .ok a) => (next a).onto written
      | (written, .error e) => (written, .error e) := by
  unfold onto StateT.run ExceptT.run
  simp only [bind, ExceptT.bind, ExceptT.mk, StateT.bind]
  cases step message with
  | mk answer written => cases answer <;> rfl

end Writing

inductive ValueKind where
  | bool
  | integer
  | float
  | text
  | bytes
deriving DecidableEq

namespace ValueKind

def name : ValueKind → String
  | .bool => "bool"
  | .integer => "integer"
  | .float => "float"
  | .text => "text"
  | .bytes => "bytes"

end ValueKind

inductive BindError where
  | wrongType (kind : ValueKind) (type : ParameterType)
  | tooSmall
  | tooLarge
  | noDecimal
deriving DecidableEq

namespace BindError

def message : BindError → String
  | .wrongType kind type =>
    "Cannot bind a " ++ kind.name ++ " value to a parameter of type " ++ type.text
  | .tooSmall => "number too small to fit in target type"
  | .tooLarge => "number too large to fit in target type"
  | .noDecimal => "the number has no decimal form"

end BindError

def boolBytes (b : Bool) : List UInt8 := [if b then 1 else 0]

def narrow (width : Nat) (v : Int) : Except BindError Int :=
  let bound : Int := 2 ^ (8 * width - 1)
  if v < -bound then .error .tooSmall
  else if bound ≤ v then .error .tooLarge
  else .ok v

def decimal (x : Binary64) : Except BindError Decimal :=
  match Decimal.ofBinary64? x with
  | some d => .ok d
  | none => .error .noDecimal

def writeChars (lead : List UInt8) (s : String) : Writing BindError Unit := do
  Writing.put lead
  Writing.put (utf8 s)

def writeInt (v : Int64) (type : ParameterType) : Writing BindError Unit :=
  match type.encoding? with
  | some .int2 => do
    let n ← narrow 2 v.toInt
    Writing.put (signed 2 n)
  | some .int4 => do
    let n ← narrow 4 v.toInt
    Writing.put (signed 4 n)
  | some .int8 => Writing.put (signed 8 v.toInt)
  | some .float4 => Writing.put (bigEndian 4 (Binary32.ofInt v.toInt).bits.toNat)
  | some .float8 => Writing.put (bigEndian 8 (Binary64.ofInt v.toInt).bits.toNat)
  | some .numeric => Writing.put (Numeric.ofDecimal (.ofInt v.toInt)).bytes
  | some .bool => Writing.put (boolBytes (v != 0))
  | some (.text lead) => writeChars lead v.toInt.repr
  | _ => throw (.wrongType .integer type)

def writeFloat (x : Binary64) (type : ParameterType) : Writing BindError Unit :=
  match type.encoding? with
  | some .float4 => Writing.put (bigEndian 4 (Binary32.ofBinary64 x).bits.toNat)
  | some .float8 => Writing.put (bigEndian 8 x.bits.toNat)
  | some .numeric => do
    let d ← decimal x
    Writing.put (Numeric.ofDecimal d).bytes
  | some (.text lead) => writeChars lead x.text
  | _ => throw (.wrongType .float type)

def writeText (s : String) (type : ParameterType) : Writing BindError Unit :=
  match type.encoding? with
  | some (.text lead) => writeChars lead s
  | _ => throw (.wrongType .text type)

def writeOwn (kind : ValueKind) (encoding : Encoding) (bytes : List UInt8)
    (type : ParameterType) : Writing BindError Unit :=
  if type.encoding? = some encoding then Writing.put bytes else throw (.wrongType kind type)

/-- Writes a value for a type, and tells whether it was null, which has no bytes. -/
def write (v : Value) (type : ParameterType) : Writing BindError Bool :=
  match v with
  | .null => return true
  | .bool b => do
    writeOwn .bool .bool (boolBytes b) type
    return false
  | .int n => do
    writeInt n type
    return false
  | .float x => do
    writeFloat x type
    return false
  | .text s => do
    writeText s type
    return false
  | .bytes bs => do
    writeOwn .bytes .bytea bs type
    return false

/-- What binding makes of a message that is being written, and whether the value was null. -/
def bind (v : Value) (type : ParameterType) (message : List UInt8) :
    List UInt8 × Except BindError Bool :=
  (write v type).onto message

end Wire
end RowBatch
