import Mathlib.Algebra.Ring.Nat
import RowBatch.Value
import RowBatch.Writer.Run

/-!
The journal of a run: which rows were accepted, which calls were made and when the writer was reset,
in one list. What waits, what was written and what was counted is read off it without the writer.
-/

namespace RowBatch

variable {η ε : Type}

namespace Call

/-- The rows that a successful execution wrote, its parameters cut into rows of `width` values. -/
def carried (width : Nat) : Call η ε → List Row
  | .execute _ parameters (.ok _) => Row.slices width parameters
  | _ => []

def count : Call η ε → Nat
  | .execute _ _ (.ok count) => count.toNat
  | _ => 0

def wrote : Call η ε → Bool
  | .execute _ _ (.ok _) => true
  | _ => false

theorem carried_eq_nil {call : Call η ε} (h : call.wrote = false) (width : Nat) :
    call.carried width = [] := by
  rcases call with _ | _ | ⟨_, _, _ | _⟩
  · rfl
  · rfl
  · rfl
  · cases h

theorem count_eq_zero {call : Call η ε} (h : call.wrote = false) : call.count = 0 := by
  rcases call with _ | _ | ⟨_, _, _ | _⟩
  · rfl
  · rfl
  · rfl
  · cases h

end Call

namespace Writer

inductive Entry (η ε : Type) where
  | accepted (row : Row)
  | called (call : Call η ε)
  | reset

namespace Entry

@[simp] def row? : Entry η ε → Option Row
  | .accepted row => some row
  | _ => none

@[simp] def call? : Entry η ε → Option (Call η ε)
  | .called call => some call
  | _ => none

end Entry

namespace Step

/-- The row that an operation took: one of the right length, and when a full batch waited, only if
the execution that tried it again succeeded. -/
def accepted? (x : Step η ε) : Option Row :=
  match x.operation with
  | .queue row =>
    if row.length = x.before.arity ∧
        (x.before.pending = x.before.batchSize → x.calls.head?.any Call.wrote) then some row
    else none
  | _ => none

/-- The number of calls before a row is taken. -/
def retries (x : Step η ε) : Nat := if x.before.pending = x.before.batchSize then 1 else 0

def entries (x : Step η ε) : List (Entry η ε) :=
  match x.operation, x.accepted? with
  | .reset, _ => [.reset]
  | _, some row =>
    (x.calls.take x.retries).map .called ++ .accepted row :: (x.calls.drop x.retries).map .called
  | _, none => x.calls.map .called

theorem reset_mem_entries {x : Step η ε} : .reset ∈ x.entries ↔ x.operation = .reset := by
  have hcalled (calls : List (Call η ε)) : Entry.reset ∉ calls.map .called := by simp
  cases hop : x.operation with
  | queue row =>
    cases hrow : x.accepted? with
    | none => simp [entries, hop, hrow]
    | some row => simp only [entries, hop, hrow, List.mem_append, List.mem_cons, hcalled,
        reduceCtorEq, or_self]
  | flush => simp [entries, accepted?, hop]
  | reset => simp [entries, hop]

end Step

/-- The journal of a run since its writer was configured. -/
def History.journal {σ : Type} (h : History σ η ε) : List (Entry η ε) :=
  h.steps.flatMap Step.entries

namespace Journal

@[simp] def extend (past : List (Entry η ε)) : Entry η ε → List (Entry η ε)
  | .accepted row => past ++ [.accepted row]
  | .called call => past ++ [.called call]
  | .reset => []

/-- The entries after the last reset. -/
def recent (j : List (Entry η ε)) : List (Entry η ε) := j.foldl extend []

/-- The rows that wait after one more entry: an accepted row joins them, and a successful execution
or a reset leaves none. -/
@[simp] def hold (rows : List Row) : Entry η ε → List Row
  | .accepted row => rows ++ [row]
  | .called call => if call.wrote then [] else rows
  | .reset => []

/-- The accepted rows that neither a later execution wrote nor a later reset dropped. -/
def waiting (j : List (Entry η ε)) : List Row := j.foldl hold []

def accepted (j : List (Entry η ε)) : List Row := j.filterMap Entry.row?

def calls (j : List (Entry η ε)) : List (Call η ε) := j.filterMap Entry.call?

/-- The rows that successful executions wrote, in the order of the calls. -/
def carried (width : Nat) (j : List (Entry η ε)) : List Row :=
  (calls j).flatMap (Call.carried width)

/-- The sum of the counts that successful executions reported. -/
def counted (j : List (Entry η ε)) : Nat := ((calls j).map Call.count).sum

/-- Every entry satisfies `P`, given what came before it; `past` comes before them all. -/
@[simp] def Each (P : List (Entry η ε) → Entry η ε → Prop) (past : List (Entry η ε)) :
    List (Entry η ε) → Prop
  | [] => True
  | x :: j => P past x ∧ Each P (past ++ [x]) j

@[simp] theorem recent_nil : recent ([] : List (Entry η ε)) = [] := rfl
@[simp] theorem waiting_nil : waiting ([] : List (Entry η ε)) = [] := rfl
@[simp] theorem accepted_nil : accepted ([] : List (Entry η ε)) = [] := rfl
@[simp] theorem calls_nil : calls ([] : List (Entry η ε)) = [] := rfl
@[simp] theorem carried_nil (width : Nat) : carried width ([] : List (Entry η ε)) = [] := rfl
@[simp] theorem counted_nil : counted ([] : List (Entry η ε)) = 0 := rfl

section Cons

variable (x : Entry η ε) (j : List (Entry η ε))

@[simp] theorem accepted_cons : accepted (x :: j) = x.row?.toList ++ accepted j := by
  cases x <;> rfl

@[simp] theorem calls_cons : calls (x :: j) = x.call?.toList ++ calls j := by
  cases x <;> rfl

@[simp] theorem carried_cons (width : Nat) :
    carried width (x :: j) = x.call?.toList.flatMap (Call.carried width) ++ carried width j := by
  simp [carried]

@[simp] theorem counted_cons : counted (x :: j) = (x.call?.toList.map Call.count).sum + counted j := by
  simp [counted]

end Cons

theorem foldl_extend {j : List (Entry η ε)} (hreset : .reset ∉ j) (past : List (Entry η ε)) :
    j.foldl extend past = past ++ j := by
  induction j generalizing past with
  | nil => simp
  | cons x j ih =>
    simp only [List.mem_cons, not_or] at hreset
    have htail := ih hreset.2
    cases x with
    | reset => exact absurd rfl hreset.1
    | accepted row => simp [htail]
    | called call => simp [htail]

theorem recent_eq_self {j : List (Entry η ε)} (hreset : .reset ∉ j) : recent j = j := by
  rw [recent, foldl_extend hreset, List.nil_append]

@[simp] theorem calls_map_called (cs : List (Call η ε)) : calls (cs.map .called) = cs := by
  induction cs with
  | nil => rfl
  | cons call cs ih => simp [ih]

theorem calls_flatMap {α : Type} (xs : List α) (f : α → List (Entry η ε)) :
    calls (xs.flatMap f) = xs.flatMap fun x => calls (f x) :=
  List.filterMap_flatMap

section Append

variable (i j : List (Entry η ε))

@[simp] theorem recent_append : recent (i ++ j) = j.foldl extend (recent i) :=
  List.foldl_append

@[simp] theorem waiting_append : waiting (i ++ j) = j.foldl hold (waiting i) :=
  List.foldl_append

@[simp] theorem accepted_append : accepted (i ++ j) = accepted i ++ accepted j :=
  List.filterMap_append

@[simp] theorem calls_append : calls (i ++ j) = calls i ++ calls j :=
  List.filterMap_append

@[simp] theorem carried_append (width : Nat) :
    carried width (i ++ j) = carried width i ++ carried width j := by
  simp [carried]

@[simp] theorem counted_append : counted (i ++ j) = counted i + counted j := by
  simp [counted]

variable {i j} {P : List (Entry η ε) → Entry η ε → Prop}

theorem each_append {past : List (Entry η ε)} :
    Each P past (i ++ j) ↔ Each P past i ∧ Each P (past ++ i) j := by
  induction i generalizing past with
  | nil => simp
  | cons x i ih => simp [ih, and_assoc]

theorem Each.of_split {past later : List (Entry η ε)} {x : Entry η ε} (h : Each P [] j)
    (hsplit : j = past ++ x :: later) : P past x := by
  rw [hsplit, each_append] at h
  exact h.2.1

end Append

end Journal

theorem Step.calls_entries {x : Step η ε} (hreset : x.operation = .reset → x.calls = []) :
    Journal.calls x.entries = x.calls := by
  cases hop : x.operation with
  | queue row =>
    cases hrow : x.accepted? with
    | none => simp [entries, hop, hrow]
    | some row =>
      simp only [entries, hop, hrow, Journal.calls_append, Journal.calls_cons,
        Journal.calls_map_called]
      exact List.take_append_drop _ _
  | flush => simp [entries, accepted?, hop]
  | reset => simp [entries, hop, hreset hop]

end Writer
end RowBatch
