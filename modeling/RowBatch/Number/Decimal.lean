import RowBatch.Number.Binary

/-!
Decimal numbers of up to ninety-six bits and twenty-eight places, and how a floating-point number
becomes one: its power of two is traded for powers of five and ten, and what does not fit is cut or
rounded off on the way.
-/

namespace RowBatch

/-- The number `mantissa / 10 ^ scale` with a sign. -/
structure Decimal where
  negative : Bool
  mantissa : Nat
  scale : Nat
deriving DecidableEq, Inhabited

namespace Decimal

/-- Mantissas stay below this. -/
def limit : Nat := 2 ^ 96

def ofInt (v : Int) : Decimal := ⟨decide (v < 0), v.natAbs, 0⟩

/-- A quotient by ten to the nearest integer, a half upwards. -/
def tenthRounded (m : Nat) : Nat := if 5 ≤ m % 10 then m / 10 + 1 else m / 10

/-- Turns `m / 2 ^ n` into a mantissa over a power of ten, one factor at a time: a factor of two is
cancelled, or replaced by a five above and a ten below, or cut off when there is no room. -/
def clearHalves : Nat → Nat → Int → Nat × Int
  | 0, m, tens => (m, tens)
  | n + 1, m, tens =>
    if m % 2 = 0 then clearHalves n (m / 2) (tens + 1)
    else if 5 * m < limit then clearHalves n (5 * m) tens
    else clearHalves n (m / 2) (tens + 1)

def clearDoubles : Nat → Nat → Int → Option (Nat × Int)
  | 0, m, tens => some (m, tens)
  | n + 1, m, tens =>
    if m < limit / 2 then clearDoubles n (2 * m) (tens - 1)
    else if n + 1 < 2 * tens then none
    else clearDoubles n (m / 5) tens

def raise : Nat → Nat → Option Nat
  | 0, m => some m
  | n + 1, m => if 10 * m < limit then raise n (10 * m) else none

/-- Drops `n` places beyond the last that can be kept, rounding each. Nothing is left of a number
that gets too small, not even its places. -/
def dropExcess (keep : Nat) : Nat → Nat → Nat × Nat
  | 0, m => (m, keep)
  | n + 1, m => if m / 10 = 0 then (0, 0) else dropExcess keep n (tenthRounded m)

/-- Drops places until the mantissa has no more than fifty-two bits. -/
def dropNoise : Nat → Nat → Nat × Nat
  | 0, m => (m, 0)
  | scale + 1, m => if 2 ^ 52 ≤ m then dropNoise scale (tenthRounded m) else (m, scale + 1)

def dropZeros : Nat → Nat → Nat × Nat
  | 0, m => (m, 0)
  | scale + 1, m => if m % 10 = 0 then dropZeros scale (m / 10) else (m, scale + 1)

def settle (m : Nat) (tens : Int) : Option (Nat × Nat) :=
  if 0 < tens then (raise tens.toNat m).map fun m => (m, 0)
  else
    let places := (-tens).toNat
    let (m, scale) := if 28 < places then dropExcess 28 (places - 28) m else (m, places)
    let (m, scale) := dropNoise scale m
    some (dropZeros scale m)

def ofBinary64? (x : Binary64) : Option Decimal :=
  if x.isNaN || x.isInfinite then none
  else if x.isZero then some ⟨x.negative, 0, 0⟩
  else
    let e := x.exponent
    let cleared :=
      if e < 0 then some (clearHalves (-e).toNat x.significand e)
      else clearDoubles e.toNat x.significand e
    (cleared.bind fun (m, tens) => settle m tens).map fun (m, scale) => ⟨x.negative, m, scale⟩

end Decimal
end RowBatch
