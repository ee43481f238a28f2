import RowBatch.Number.Binary

/-!
Floating-point numbers in decimal: the fewest digits that read back as the same number, and of
those the nearest, written without an exponent.
-/

namespace RowBatch
namespace Number

/-- A positive fraction with the ends of an interval around it, all three over one denominator. -/
structure Neighbourhood where
  value : Nat
  low : Nat
  high : Nat
  denominator : Nat
  closed : Bool

namespace Neighbourhood

/-- The numbers that round to a positive finite one. Below a power of two the next number is only
half as far away. -/
def ofBinary64 (x : Binary64) : Neighbourhood :=
  let m := x.significand
  let q := x.exponent - 2
  let scale := 2 ^ q.toNat
  let below := if m = 2 ^ 52 then 1 else 2
  ⟨4 * m * scale, (4 * m - below) * scale, (4 * m + 2) * scale, 2 ^ (-q).toNat,
    decide (m % 2 = 0)⟩

/-- The point `d * 10 ^ k` as a numerator over the denominator times `10 ^ (-k)`. -/
def point (n : Neighbourhood) (d : Nat) (k : Int) : Nat :=
  d * 10 ^ k.toNat * n.denominator

def contains (n : Neighbourhood) (d : Nat) (k : Int) : Bool :=
  let p := n.point d k
  let low := n.low * 10 ^ (-k).toNat
  let high := n.high * 10 ^ (-k).toNat
  if n.closed then decide (low ≤ p) && decide (p ≤ high) else decide (low < p) && decide (p < high)

def magnitude (n : Neighbourhood) : Int :=
  (Nat.repr (n.value * 10 ^ 400 / n.denominator)).length - 400

/-- The neighbour of the value on the grid of the multiples of `10 ^ k` that lies in the interval;
of two the nearer, and of two as near the larger. -/
def onGrid (n : Neighbourhood) (k : Int) : Option Nat :=
  let value := n.value * 10 ^ (-k).toNat
  let unit := n.point 1 k
  let d := value / unit
  let far := decide (unit ≤ 2 * (value % unit))
  match n.contains d k, n.contains (d + 1) k with
  | true, true => some (if far then d + 1 else d)
  | true, false => some d
  | false, true => some (d + 1)
  | false, false => none

/-- The first grid with a point in the interval, going from one digit to seventeen, and that point;
a nine that was rounded up to ten is a one on the grid before. -/
def shortest (n : Neighbourhood) : Nat × Int :=
  let size := n.magnitude
  match (List.range 17).findSome? fun (i : Nat) =>
      (n.onGrid (size - 1 - i)).map fun d => (d, size - 1 - i) with
  | some (d, k) => if d % 10 = 0 then (d / 10, k + 1) else (d, k)
  | none => (0, 0)

end Neighbourhood

/-- The decimal `d * 10 ^ k` without an exponent. -/
def positional (d : Nat) (k : Int) : String :=
  let digits := (Nat.repr d).toList
  let zeros (n : Int) := List.replicate n.toNat '0'
  let whole := digits.length + k
  String.ofList
    (if 0 ≤ k then digits ++ zeros k
    else if 0 < whole then digits.take whole.toNat ++ '.' :: digits.drop whole.toNat
    else '0' :: '.' :: zeros (-whole) ++ digits)

end Number

namespace Binary64

def text (x : Binary64) : String :=
  if x.isNaN then "NaN"
  else
    (if x.negative then "-" else "") ++
      (if x.isInfinite then "inf"
      else if x.isZero then "0"
      else
        let found := (Number.Neighbourhood.ofBinary64 x).shortest
        Number.positional found.1 found.2)

end Binary64
end RowBatch
