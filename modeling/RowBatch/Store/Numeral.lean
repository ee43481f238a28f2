import RowBatch.Number.Arithmetic
import RowBatch.Number.Shortest

/-!
Numbers in texts: the number that a text starts with, and the text of a number.
-/

namespace RowBatch
namespace Store

inductive Numeral where
  | integer (value : Int64)
  | real (value : Binary64)
deriving DecidableEq, Inhabited

namespace Numeral

def isSpace (c : Char) : Bool := c == ' ' || decide (0x09 ≤ c.toNat ∧ c.toNat ≤ 0x0d)

def digitsOf (cs : List Char) : Nat := cs.foldl (fun n c => 10 * n + (c.toNat - '0'.toNat)) 0

/-- The exact integers, as far as they reach; others are rounded. -/
def ofInt (v : Int) : Numeral :=
  let n := Int64.ofInt v
  if n.toInt = v then .integer n else .real (Binary64.ofInt v)

def readExponent (cs : List Char) : Option (Int × List Char) :=
  match cs with
  | mark :: rest =>
    if mark == 'e' || mark == 'E' then
      let (negative, rest) := match rest with
        | '-' :: rest => (true, rest)
        | '+' :: rest => (false, rest)
        | rest => (false, rest)
      let digits := rest.takeWhile Char.isDigit
      if digits.isEmpty then none
      else
        let n := Int.ofNat (digitsOf digits)
        some (if negative then -n else n, rest.dropWhile Char.isDigit)
    else none
  | [] => none

/-- Reads the number at the start of a text without a sign, and tells whether nothing but blanks
follows. A text without digits is the integer zero. -/
def readUnsigned (negative : Bool) (cs : List Char) : Numeral × Bool :=
  let whole := cs.takeWhile Char.isDigit
  let rest := cs.dropWhile Char.isDigit
  let (fraction, point, rest) := match rest with
    | '.' :: more => (more.takeWhile Char.isDigit, true, more.dropWhile Char.isDigit)
    | rest => ([], false, rest)
  let digits := whole ++ fraction
  let (exponent, marked, rest) := match readExponent rest with
    | some (e, rest) => (e, true, rest)
    | none => (0, false, rest)
  let ends := rest.all isSpace
  if digits.isEmpty then (.integer 0, false)
  else if point || marked then
    (.real (Binary64.ofDecimal negative (digitsOf digits) (exponent - fraction.length)), ends)
  else
    let n := Int.ofNat (digitsOf digits)
    (ofInt (if negative then -n else n), ends)

def read (cs : List Char) : Numeral × Bool :=
  match cs.dropWhile isSpace with
  | '-' :: rest => readUnsigned true rest
  | '+' :: rest => readUnsigned false rest
  | rest => readUnsigned false rest

def toReal : Numeral → Binary64
  | .integer n => Binary64.ofInt n.toInt
  | .real x => x

def isZero : Numeral → Bool
  | .integer n => n == 0
  | .real x => x.isZero

/-- The inexact number at the start of a text. Here a zero keeps its sign. -/
def readReal (cs : List Char) : Binary64 :=
  let numeral := (read cs).1
  if numeral.isZero then Binary64.zero ((cs.dropWhile isSpace).head? == some '-')
  else numeral.toReal

def precision : Nat := 15

/-- The digits of a positive finite number rounded to the precision, as an integer, and the power
of ten that the last of them counts. -/
def roundedDigits (x : Binary64) : Nat × Int :=
  let n := Number.Neighbourhood.ofBinary64 x
  let last := n.magnitude - precision
  let next := n.value * 10 ^ (1 - last).toNat / (n.denominator * 10 ^ (last - 1).toNat)
  ((next + 5) / 10, last)

def dropZeros : Nat → Nat → Int → Nat × Int
  | 0, d, k => (d, k)
  | fuel + 1, d, k => if d % 10 = 0 then dropZeros fuel (d / 10) (k + 1) else (d, k)

def exponential (d : Nat) (k : Int) : String :=
  let digits := (Nat.repr d).toList
  let exponent := k + digits.length - 1
  let size := Nat.repr exponent.natAbs
  let fraction := if digits.tail.isEmpty then ['0'] else digits.tail
  String.ofList (digits.take 1 ++ '.' :: fraction) ++ (if exponent < 0 then "e-" else "e+") ++
    (if size.length < 2 then "0" ++ size else size)

def realText (x : Binary64) : String :=
  let sign := if x.negative then "-" else ""
  if x.isInfinite then sign ++ "Inf"
  else if x.isZero then "0.0"
  else
    let (d, k) := roundedDigits x
    let (d, k) := dropZeros (precision + 1) d k
    let size : Int := k + (Nat.repr d).length
    if size ≤ -4 ∨ precision < size then sign ++ exponential d k
    else sign ++ Number.positional d k ++ (if 0 ≤ k then ".0" else "")

end Numeral
end Store
end RowBatch
