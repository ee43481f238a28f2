import RowBatch.Number.Binary

/-!
The values that a row holds, and rows one after the other in a list of values. A floating-point
number is kept as its sixty-four bits, so that two of them are the same value only when every bit
agrees.
-/

namespace RowBatch

inductive Value where
  | null
  | bool (value : Bool)
  | int (value : Int64)
  | float (value : Binary64)
  | text (value : String)
  | bytes (value : List UInt8)
deriving DecidableEq, Inhabited

namespace Value

def isNull : Value → Bool
  | .null => true
  | _ => false

/-- Equality as the values compare: numbers by their worth, so that the two zeros are equal and what
is no number equals nothing, and values of two kinds never. -/
def equal : Value → Value → Bool
  | .float x, .float y => x.equal y
  | .float _, _ => false
  | v, w => decide (v = w)

end Value

/-- The types whose members can be put into a row as they are. -/
class ToValue (α : Type) where
  toValue : α → Value

export ToValue (toValue)

instance : ToValue Value := ⟨id⟩
instance : ToValue Bool := ⟨.bool⟩
instance : ToValue Int8 := ⟨fun n => .int n.toInt64⟩
instance : ToValue Int16 := ⟨fun n => .int n.toInt64⟩
instance : ToValue Int32 := ⟨fun n => .int n.toInt64⟩
instance : ToValue Int64 := ⟨.int⟩
instance : ToValue UInt8 := ⟨fun n => .int (Int64.ofNat n.toNat)⟩
instance : ToValue UInt16 := ⟨fun n => .int (Int64.ofNat n.toNat)⟩
instance : ToValue UInt32 := ⟨fun n => .int (Int64.ofNat n.toNat)⟩
instance : ToValue Binary32 := ⟨fun x => .float x.toBinary64⟩
instance : ToValue Binary64 := ⟨.float⟩
instance : ToValue String := ⟨.text⟩
instance : ToValue (List UInt8) := ⟨.bytes⟩
instance {α : Type} [ToValue α] : ToValue (Option α) := ⟨fun a => (a.map toValue).getD .null⟩

abbrev Row := List Value

namespace Row

/-- Consecutive slices of `width` values; the last one may be shorter. -/
def slices (width : Nat) (values : List Value) : List Row :=
  (List.range ((values.length + (width - 1)) / width)).map fun p =>
    (values.drop (p * width)).take width

variable {width : Nat} {rows : List Row}

theorem length_flatten (hr : ∀ r ∈ rows, r.length = width) :
    rows.flatten.length = rows.length * width := by
  induction rows with
  | nil => simp
  | cons r rows ih =>
    have hhead := hr r (by simp)
    have htail := ih fun r hm => hr r (by simp [hm])
    simp only [List.flatten_cons, List.length_append, List.length_cons, hhead, htail,
      Nat.succ_mul, Nat.add_comm]

theorem drop_flatten (hr : ∀ r ∈ rows, r.length = width) (p : Nat) :
    rows.flatten.drop (p * width) = (rows.drop p).flatten := by
  induction rows generalizing p with
  | nil => simp
  | cons r rows ih =>
    have hhead := hr r (by simp)
    cases p with
    | zero => simp
    | succ p =>
      have htail := ih (fun r hm => hr r (by simp [hm])) p
      have hskip : r.drop (width + p * width) = [] := List.drop_eq_nil_of_le (by omega)
      simp [Nat.succ_mul, Nat.add_comm _ width, List.drop_append, hhead, hskip, htail]

theorem slices_flatten (hw : 0 < width) (hr : ∀ r ∈ rows, r.length = width) :
    slices width rows.flatten = rows := by
  have hcount : (rows.flatten.length + (width - 1)) / width = rows.length := by
    rw [length_flatten hr, Nat.add_comm, Nat.add_mul_div_right _ _ hw,
      Nat.div_eq_of_lt (by omega), Nat.zero_add]
  apply List.ext_getElem
  · simp only [slices, List.length_map, List.length_range, hcount]
  · intro p _ hp
    have hdrop : rows.drop p = rows[p] :: rows.drop (p + 1) := List.drop_eq_getElem_cons hp
    have hlen : rows[p].length = width := hr _ (List.getElem_mem hp)
    simp only [slices, List.getElem_map, List.getElem_range]
    rw [drop_flatten hr, hdrop, List.flatten_cons, List.take_left' hlen]

/-- The place of a value in the list is its column, counted from the start of its row. -/
theorem getElem?_flatten (hr : ∀ r ∈ rows, r.length = width) (p : Nat) {c : Nat} (hc : c < width) :
    rows.flatten[p * width + c]? = rows[p]?.bind fun r => r[c]? := by
  rw [← List.getElem?_drop, drop_flatten hr]
  cases hp : rows[p]? with
  | none =>
    have hend : rows.drop p = [] := List.drop_eq_nil_of_le (List.getElem?_eq_none_iff.mp hp)
    simp [hend]
  | some r =>
    obtain ⟨hlt, rfl⟩ := List.getElem?_eq_some_iff.mp hp
    have hlen : rows[p].length = width := hr _ (List.getElem_mem hlt)
    rw [List.drop_eq_getElem_cons hlt, List.flatten_cons,
      List.getElem?_append_left (by omega)]
    rfl

end Row
end RowBatch
