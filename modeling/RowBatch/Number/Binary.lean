/-!
Binary floating-point numbers by their bits. Rounding goes to the nearest number of the format, a
half to the even neighbour, and past the largest number to infinity.
-/

namespace RowBatch
namespace Number

-- A power is the same term here and where an algebraic structure brings powers of its own.
@[default_instance high] instance intPow : Pow Int Nat := instPowNat
@[default_instance high] instance natPow : Pow Nat Nat := instPowNat

/-- The quotient `n / 2 ^ k` to the nearest integer, a half to the even one. -/
def shiftEven (n k : Nat) : Nat :=
  let quotient := n / 2 ^ k
  let twice := 2 * (n % 2 ^ k)
  if twice < 2 ^ k ∨ (twice = 2 ^ k ∧ quotient % 2 = 0) then quotient else quotient + 1

/-- A format by the widths of its fraction and exponent fields. -/
structure Format where
  fractionBits : Nat
  exponentBits : Nat
deriving DecidableEq

namespace Format

def binary32 : Format := ⟨23, 8⟩
def binary64 : Format := ⟨52, 11⟩

/-- The exponent of the smallest positive number, which is a power of two. -/
def minExponent (f : Format) : Int :=
  2 - 2 ^ (f.exponentBits - 1) - f.fractionBits

/-- The bits of infinity. Larger ones are no numbers. -/
def infinity (f : Format) : Nat :=
  (2 ^ f.exponentBits - 1) * 2 ^ f.fractionBits

def signBit (f : Format) : Nat :=
  2 ^ (f.exponentBits + f.fractionBits)

/-- The bits of the magnitude nearest to `m * 2 ^ e`. With the unit in the last place `2 ^ u` they
are the number of units plus a whole fraction field for each step of `u`, so that a carry out of the
fraction raises the exponent by itself. -/
def round (f : Format) (m : Nat) (e : Int) : Nat :=
  if m = 0 then 0
  else
    let unit := max (Nat.log2 m + e - f.fractionBits) f.minExponent
    let units := if unit ≤ e then m * 2 ^ (e - unit).toNat else shiftEven m (unit - e).toNat
    min ((unit - f.minExponent).toNat * 2 ^ f.fractionBits + units) f.infinity

def withSign (f : Format) (negative : Bool) (magnitude : Nat) : Nat :=
  if negative then f.signBit + magnitude else magnitude

end Format
end Number

structure Binary32 where
  bits : UInt32
deriving DecidableEq, Inhabited

structure Binary64 where
  bits : UInt64
deriving DecidableEq, Inhabited

namespace Binary64
open Number

def negative (x : Binary64) : Bool := decide (2 ^ 63 ≤ x.bits.toNat)

def magnitude (x : Binary64) : Nat := x.bits.toNat % 2 ^ 63

def isNaN (x : Binary64) : Bool := decide (Format.binary64.infinity < x.magnitude)

def isInfinite (x : Binary64) : Bool := decide (x.magnitude = Format.binary64.infinity)

def isZero (x : Binary64) : Bool := decide (x.magnitude = 0)

/-- A finite magnitude is its significand times two to its exponent. -/
def significand (x : Binary64) : Nat :=
  if x.magnitude < 2 ^ 52 then x.magnitude else 2 ^ 52 + x.magnitude % 2 ^ 52

def exponent (x : Binary64) : Int :=
  Int.ofNat (max (x.magnitude / 2 ^ 52) 1) - 1075

def ofMagnitude (negative : Bool) (magnitude : Nat) : Binary64 :=
  ⟨UInt64.ofNat (Format.binary64.withSign negative magnitude)⟩

def ofInt (v : Int) : Binary64 :=
  ofMagnitude (decide (v < 0)) (Format.binary64.round v.natAbs 0)

/-- Equality as numbers: the two zeros are equal, and what is no number equals nothing. -/
def equal (x y : Binary64) : Bool :=
  !x.isNaN && !y.isNaN && (decide (x = y) || x.isZero && y.isZero)

end Binary64

namespace Binary32
open Number

def ofMagnitude (negative : Bool) (magnitude : Nat) : Binary32 :=
  ⟨UInt32.ofNat (Format.binary32.withSign negative magnitude)⟩

def ofInt (v : Int) : Binary32 :=
  ofMagnitude (decide (v < 0)) (Format.binary32.round v.natAbs 0)

/-- The number nearest to a wider one. What is no number stays none, and keeps the upper part of its
fraction, with the first bit set. -/
def ofBinary64 (x : Binary64) : Binary32 :=
  ofMagnitude x.negative
    (if x.isNaN then Format.binary32.infinity + 2 ^ 22 + x.magnitude % 2 ^ 51 / 2 ^ 29
    else if x.isInfinite then Format.binary32.infinity
    else Format.binary32.round x.significand x.exponent)

def toBinary64 (x : Binary32) : Binary64 :=
  let magnitude := x.bits.toNat % 2 ^ 31
  let fraction := magnitude % 2 ^ 23
  let field : Nat := magnitude / 2 ^ 23
  Binary64.ofMagnitude (decide (2 ^ 31 ≤ x.bits.toNat))
    (if field = 255 then
      Format.binary64.infinity + (if fraction = 0 then 0 else 2 ^ 51 + fraction % 2 ^ 22 * 2 ^ 29)
    else if field = 0 then Format.binary64.round fraction (-149)
    else Format.binary64.round (2 ^ 23 + fraction) (field - 150))

end Binary32
end RowBatch
