import RowBatch.Number.Binary
import RowBatch.Number.Decimal

/-!
Numbers as bytes, the most significant first, and decimal numbers in groups of four digits, as a
server keeps them: the weight counts the groups before the point, and the places that are shown are
given apart.
-/

namespace RowBatch
namespace Wire

/-- The lowest `width` bytes of a number. -/
def bigEndian : Nat → Nat → List UInt8
  | 0, _ => []
  | width + 1, n => bigEndian width (n / 256) ++ [UInt8.ofNat n]

def signed (width : Nat) (v : Int) : List UInt8 :=
  bigEndian width (v % (256 ^ width : Nat)).toNat

def utf8 (s : String) : List UInt8 := s.toByteArray.data.toList

@[simp] theorem length_bigEndian (width n : Nat) : (bigEndian width n).length = width := by
  induction width generalizing n with
  | zero => rfl
  | succ width ih => simp [bigEndian, ih]

/-- The digits of a number in base ten thousand, without leading zeros. -/
def groups (n : Nat) : List Nat :=
  if _h : n = 0 then [] else groups (n / 10000) ++ [n % 10000]
termination_by n
decreasing_by omega

structure Numeric where
  weight : Int
  negative : Bool
  scale : Nat
  digits : List Nat
deriving DecidableEq

namespace Numeric

def dropTrailingZeros (l : List Nat) : List Nat := (l.reverse.dropWhile (· == 0)).reverse

/-- Fills the places up to whole groups. Groups of zeros are dropped after the point, when there are
groups before it. -/
def ofDecimal (d : Decimal) : Numeric :=
  if d.mantissa = 0 then ⟨0, false, 0, []⟩
  else
    let places := (d.scale + 3) / 4
    let all := groups (d.mantissa * 10 ^ (4 * places - d.scale))
    let weight : Int := all.length - places - 1
    let digits :=
      if 0 ≤ weight then
        all.take (weight + 1).toNat ++ dropTrailingZeros (all.drop (weight + 1).toNat)
      else all
    ⟨weight, d.negative, d.scale, digits⟩

def bytes (n : Numeric) : List UInt8 :=
  bigEndian 2 n.digits.length ++ signed 2 n.weight ++
    bigEndian 2 (if n.negative then 0x4000 else 0) ++ bigEndian 2 n.scale ++
    n.digits.flatMap (bigEndian 2)

end Numeric
end Wire
end RowBatch
