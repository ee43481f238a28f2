import RowBatch.Number.Binary

/-!
Arithmetic of binary floating-point numbers: the exact result, rounded once. A quotient is rounded
from its first bits and one more, which is set when any of the others is.
-/

namespace RowBatch
namespace Number
namespace Format

/-- The bits of the magnitude nearest to `num / den * 2 ^ e`. -/
def roundRatio (f : Format) (num den : Nat) (e : Int) : Nat :=
  let shift := f.fractionBits + 4 + Nat.log2 den
  let quotient := num * 2 ^ shift / den
  let sticky := if num * 2 ^ shift % den = 0 then 0 else 1
  f.round (2 * quotient + sticky) (e - shift - 1)

end Format
end Number

namespace Binary64
open Number

def nan : Binary64 := ofMagnitude false (Format.binary64.infinity + 2 ^ 51)

def infinity (negative : Bool) : Binary64 := ofMagnitude negative Format.binary64.infinity

def zero (negative : Bool) : Binary64 := ofMagnitude negative 0

/-- The magnitude nearest to `m * 10 ^ e`. Numbers far out of reach are not computed. -/
def decimalMagnitude (m : Nat) (e : Int) : Nat :=
  let size : Int := (Nat.repr m).length + e
  if m = 0 ∨ size < -400 then 0
  else if 400 < size then Format.binary64.infinity
  else if 0 ≤ e then Format.binary64.round (m * 10 ^ e.toNat) 0
  else Format.binary64.roundRatio m (10 ^ (-e).toNat) 0

def ofDecimal (negative : Bool) (m : Nat) (e : Int) : Binary64 :=
  ofMagnitude negative (decimalMagnitude m e)

/-- A finite number in units of `2 ^ e`, for an exponent that is not larger than its own. -/
def unitsOf (x : Binary64) (e : Int) : Int :=
  let units := Int.ofNat (x.significand * 2 ^ (x.exponent - e).toNat)
  if x.negative then -units else units

def add (x y : Binary64) : Binary64 :=
  if x.isNaN || y.isNaN then nan
  else if x.isInfinite then
    if y.isInfinite && x.negative != y.negative then nan else x
  else if y.isInfinite then y
  else
    let e := min x.exponent y.exponent
    let sum := x.unitsOf e + y.unitsOf e
    if sum = 0 then zero (x.negative && y.negative)
    else ofMagnitude (decide (sum < 0)) (Format.binary64.round sum.natAbs e)

def negate (x : Binary64) : Binary64 := ofMagnitude (!x.negative) x.magnitude

def sub (x y : Binary64) : Binary64 := x.add y.negate

def mul (x y : Binary64) : Binary64 :=
  let negative := x.negative != y.negative
  if x.isNaN || y.isNaN then nan
  else if x.isInfinite || y.isInfinite then
    if x.isZero || y.isZero then nan else infinity negative
  else
    ofMagnitude negative
      (Format.binary64.round (x.significand * y.significand) (x.exponent + y.exponent))

def div (x y : Binary64) : Binary64 :=
  let negative := x.negative != y.negative
  if x.isNaN || y.isNaN then nan
  else if x.isInfinite then if y.isInfinite then nan else infinity negative
  else if y.isInfinite then zero negative
  else if y.isZero then if x.isZero then nan else infinity negative
  else
    ofMagnitude negative
      (Format.binary64.roundRatio x.significand y.significand (x.exponent - y.exponent))

def isInt (x : Binary64) (v : Int) : Bool :=
  if x.isNaN || x.isInfinite then false
  else
    let e := min x.exponent 0
    decide (x.unitsOf e = v * 2 ^ (-e).toNat)

/-- The integer that a number is worth, if there is one. -/
def toInt? (x : Binary64) : Option Int :=
  if x.isNaN || x.isInfinite then none
  else
    let e := min x.exponent 0
    let units := x.unitsOf e
    let unit : Int := 2 ^ (-e).toNat
    if units % unit = 0 then some (units / unit) else none

end Binary64
end RowBatch
