import RowBatch.Number.Arithmetic

/-!
What a plain scalar says when it is not taken as a text: nothing, a truth value, or a number.
-/

namespace RowBatch
namespace Markup
namespace Meaning

def nullWords : List String := ["null", "Null", "NULL", "~"]

def boolWords : List String := ["true", "True", "TRUE", "false", "False", "FALSE"]

def infinityWords : List String := [".inf", ".Inf", ".INF"]

def notANumberWords : List String := [".nan", ".NaN", ".NAN"]

def isNull (cs : List Char) : Bool := cs.isEmpty || nullWords.any fun w => w.toList == cs

def isBool (cs : List Char) : Bool := boolWords.any fun w => w.toList == cs

def digit? (radix : Nat) (c : Char) : Option Nat :=
  let n :=
    if c.isDigit then c.toNat - '0'.toNat
    else if 'a' ≤ c ∧ c ≤ 'f' then c.toNat - 'a'.toNat + 10
    else if 'A' ≤ c ∧ c ≤ 'F' then c.toNat - 'A'.toNat + 10
    else radix
  if n < radix then some n else none

def continueNumber (radix : Nat) : Nat → List Char → Option Nat
  | n, [] => some n
  | n, c :: rest => (digit? radix c).bind fun d => continueNumber radix (radix * n + d) rest

def number? (radix : Nat) (cs : List Char) : Option Nat :=
  if cs.isEmpty then none else continueNumber radix 0 cs

/-- A number in hexadecimal, octal or binary, told by what stands before it. -/
def marked? (cs : List Char) : Option Nat :=
  match cs with
  | '0' :: 'x' :: rest => number? 16 rest
  | '0' :: 'o' :: rest => number? 8 rest
  | '0' :: 'b' :: rest => number? 2 rest
  | _ => none

/-- Digits that start with a needless zero are no number. -/
def hasNeedlessZero (cs : List Char) : Bool :=
  match cs with
  | '0' :: c :: rest => (c :: rest).all Char.isDigit
  | _ => false

def decimal? (cs : List Char) : Option Nat :=
  if hasNeedlessZero cs then none else number? 10 cs

def magnitude? (cs : List Char) : Option Nat := (marked? cs).or (decimal? cs)

def unsigned? (cs : List Char) : Option Nat :=
  match cs with
  | '+' :: rest => magnitude? rest
  | cs => magnitude? cs

/-- Whether a scalar is an integer of up to sixteen bytes. -/
def isInteger (cs : List Char) : Bool :=
  match cs with
  | '-' :: rest => (magnitude? rest).any fun n => decide (n ≤ 2 ^ 127)
  | cs => (unsigned? cs).any fun n => decide (n < 2 ^ 128)

def exponent? (cs : List Char) : Option Int :=
  match cs with
  | [] => some 0
  | mark :: rest =>
    if mark == 'e' || mark == 'E' then
      match rest with
      | '-' :: digits => (number? 10 digits).map fun n => -Int.ofNat n
      | '+' :: digits => (number? 10 digits).map Int.ofNat
      | digits => (number? 10 digits).map Int.ofNat
    else none

/-- Reads a number with a point and an exponent, which may both be missing: its digits, and the
power of ten that they count. -/
def scientific? (cs : List Char) : Option (List Char × Int) :=
  let whole := cs.takeWhile Char.isDigit
  match cs.dropWhile Char.isDigit with
  | '.' :: rest =>
    let fraction := rest.takeWhile Char.isDigit
    if whole.isEmpty && fraction.isEmpty then none
    else
      (exponent? (rest.dropWhile Char.isDigit)).map fun e =>
        (whole ++ fraction, e - fraction.length)
  | rest => if whole.isEmpty then none else (exponent? rest).map fun e => (whole, e)

/-- Whether the number of a list of digits times a power of ten is one of the finite floating-point
numbers after rounding. -/
def isFinite (digits : List Char) (exponent : Int) : Bool :=
  decide (Binary64.decimalMagnitude ((continueNumber 10 0 digits).getD 0) exponent <
    Number.Format.binary64.infinity)

def isUnmarkedFloat (cs : List Char) : Bool :=
  match scientific? cs with
  | some (digits, exponent) => isFinite digits exponent
  | none => infinityWords.any fun w => w.toList == cs

/-- Whether a scalar is a floating-point number. A finite one must not be written with an exponent
that makes it infinite. -/
def isFloat (cs : List Char) : Bool :=
  match cs with
  | '+' :: rest => isUnmarkedFloat rest
  | '-' :: rest => isUnmarkedFloat rest
  | cs => isUnmarkedFloat cs || notANumberWords.any fun w => w.toList == cs

def isCode (cs : List Char) : Bool :=
  match cs with
  | '+' :: rest => hasNeedlessZero rest
  | '-' :: rest => hasNeedlessZero rest
  | cs => hasNeedlessZero cs

/-- Whether a plain scalar is certainly a text. -/
def isText (cs : List Char) : Bool :=
  !isNull cs && !isBool cs && !isInteger cs && !isFloat cs && !isCode cs

end Meaning
end Markup
end RowBatch
