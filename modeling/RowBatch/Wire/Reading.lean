import RowBatch.Value
import RowBatch.Wire.Numeric
import RowBatch.Wire.Parameter

/-!
Reading the bytes of a parameter as a server does, by the type that the parameter has.
-/

namespace RowBatch
namespace Wire

def ofBigEndian (bytes : List UInt8) : Nat := bytes.foldl (fun n b => 256 * n + b.toNat) 0

def ofSigned (bytes : List UInt8) : Int :=
  let n := ofBigEndian bytes
  if 2 * n < 256 ^ bytes.length then n else n - (256 ^ bytes.length : Nat)

def integer? (width : Nat) (bytes : List UInt8) : Option Int :=
  if bytes.length = width then some (ofSigned bytes) else none

def text? (bytes : List UInt8) : Option String := String.fromUTF8? ⟨bytes.toArray⟩

namespace Numeric

def digits? : Nat → List UInt8 → Option (List Nat)
  | 0, [] => some []
  | n + 1, high :: low :: rest => (digits? n rest).map (ofBigEndian [high, low] :: ·)
  | _, _ => none

/-- The sign by its mark. Other marks stand for what is no number. -/
def negative? : Nat → Option Bool
  | 0 => some false
  | 0x4000 => some true
  | _ => none

/-- Reads the header of four fields and as many groups as it tells. -/
def read? (bytes : List UInt8) : Option Numeric :=
  match bytes with
  | c₁ :: c₀ :: w₁ :: w₀ :: s₁ :: s₀ :: p₁ :: p₀ :: rest => do
    let digits ← digits? (ofBigEndian [c₁, c₀]) rest
    let negative ← negative? (ofBigEndian [s₁, s₀])
    if digits.all (· < 10000) then
      some ⟨ofSigned [w₁, w₀], negative, ofBigEndian [p₁, p₀], digits⟩
    else none
  | _ => none

/-- What groups are worth, the first of them times the power of ten thousand that the weight tells
and each other one power less. -/
def sum : Int → List Nat → Rat
  | _, [] => 0
  | weight, digit :: digits => digit * 10000 ^ weight + sum (weight - 1) digits

def worth (n : Numeric) : Rat :=
  if n.negative then -sum n.weight n.digits else sum n.weight n.digits

end Numeric

/-- What a server can find in a parameter. -/
inductive Reading where
  | number (value : Rat)
  | float (value : Binary64)
  | truth (value : Bool)
  | text (value : String)
  | bytes (value : List UInt8)

/-- What a server finds in the bytes of a parameter. Of the floating-point types only the wider one is
read here. -/
def receive (type : ParameterType) (bytes : List UInt8) : Option Reading :=
  match type with
  | .builtin "int2" => (integer? 2 bytes).map fun v => .number v
  | .builtin "int4" => (integer? 4 bytes).map fun v => .number v
  | .builtin "int8" => (integer? 8 bytes).map fun v => .number v
  | .builtin "numeric" => (Numeric.read? bytes).map fun n => .number n.worth
  | .builtin "float8" =>
    if bytes.length = 8 then some (.float ⟨UInt64.ofNat (ofBigEndian bytes)⟩) else none
  | .builtin "bool" =>
    match bytes with
    | [b] => some (.truth (b != 0))
    | _ => none
  | .builtin "bytea" => some (.bytes bytes)
  | type =>
    if type.IsTextual ∧ type.lead <+: bytes then
      (text? (bytes.drop type.lead.length)).map .text
    else none

def natural? (cs : List Char) : Option Nat :=
  if cs.isEmpty || !cs.all Char.isDigit then none else some (Nat.ofDigitChars 10 cs 0)

def decimal? : List Char → Option Int
  | '-' :: cs => (natural? cs).map fun n => -n
  | cs => (natural? cs).map fun n => n

/-- The number that a parameter is taken for; a text is taken as a decimal numeral. -/
def Reading.number? : Reading → Option Rat
  | .number value => some value
  | .text s => (decimal? s.toList).map fun v => v
  | _ => none

end Wire
end RowBatch
