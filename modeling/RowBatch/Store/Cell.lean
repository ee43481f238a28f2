import RowBatch.Store.Numeral
import RowBatch.Update.Rule
import RowBatch.Value
import RowBatch.Wire.Numeric

/-!
What a table of the store holds in one place, and how two cells are combined by an operator. A null
on either side makes arithmetic null, and concatenation passes over it, as over empty texts.
-/

namespace RowBatch
namespace Store

inductive Cell where
  | null
  | integer (value : Int64)
  | real (value : Binary64)
  | text (value : String)
  | blob (value : List UInt8)
deriving DecidableEq, Inhabited

namespace Cell

/-- The cell of a value. There are no truth values in the store, and the numbers one and zero stand
for them. -/
def ofValue : Value → Cell
  | .null => .null
  | .bool b => .integer (if b then 1 else 0)
  | .int n => .integer n
  | .float x => .real x
  | .text s => .text s
  | .bytes bs => .blob bs

def toValue : Cell → Value
  | .null => .null
  | .integer n => .int n
  | .real x => .float x
  | .text s => .text s
  | .blob bs => .bytes bs

def isNull : Cell → Bool
  | .null => true
  | _ => false

/-- The characters of a blob's text. Bytes that make no text each count as an unknown character,
but for those of ASCII. -/
def blobText (bs : List UInt8) : String :=
  match String.fromUTF8? ⟨bs.toArray⟩ with
  | some s => s
  | none => String.ofList (bs.map fun b => if b < 0x80 then Char.ofNat b.toNat else '\ufffd')

def joined : Cell → String
  | .null => ""
  | .integer n => Int.repr n.toInt
  | .real x => Numeral.realText x
  | .text s => s
  | .blob bs => blobText bs

/-- The number that a cell counts as; only null counts as none. -/
def numeral? : Cell → Option Numeral
  | .null => none
  | .integer n => some (.integer n)
  | .real x => some (.real x)
  | .text s => some (Numeral.read s.toList).1
  | .blob bs => some (Numeral.read (blobText bs).toList).1

def toReal : Cell → Binary64
  | .null => Binary64.zero false
  | .integer n => Binary64.ofInt n.toInt
  | .real x => x
  | .text s => Numeral.readReal s.toList
  | .blob bs => Numeral.readReal (blobText bs).toList

def ofReal (x : Binary64) : Cell := if x.isNaN then .null else .real x

/-- Arithmetic that is exact on two integers as far as the result is one, and inexact otherwise. -/
def arithmetic (exact : Int → Int → Int) (inexact : Binary64 → Binary64 → Binary64)
    (left right : Cell) : Cell :=
  let rounded := ofReal (inexact left.toReal right.toReal)
  match left.numeral?, right.numeral? with
  | some (.integer a), some (.integer b) =>
    match Numeral.ofInt (exact a.toInt b.toInt) with
    | .integer n => .integer n
    | .real _ => rounded
  | some _, some _ => rounded
  | _, _ => .null

def isZero (c : Cell) : Bool := c.numeral?.any Numeral.isZero

def join (delimiter : Char) (cells : List Cell) : String :=
  String.intercalate delimiter.toString ((cells.map joined).filter fun s => !s.isEmpty)

def combine (operator : Operator) (left right : Cell) : Cell :=
  match operator with
  | .add => arithmetic (· + ·) Binary64.add left right
  | .subtract => arithmetic (· - ·) Binary64.sub left right
  | .multiply => arithmetic (· * ·) Binary64.mul left right
  | .divide => if right.isZero then .null else arithmetic Int.tdiv Binary64.div left right
  | .concat delimiter => .text (join delimiter [left, right])

end Cell
end Store
end RowBatch
