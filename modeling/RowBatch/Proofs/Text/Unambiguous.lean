/-!
Texts that tell what was written and where it ends. Such texts can be put one behind the other, and
equal wholes have equal parts.
-/

namespace RowBatch

def isIdentifierChar (c : Char) : Bool := c.isAlphanum || c == '_'

/-- A name that needs no quotes. -/
def IsIdentifier (name : String) : Prop :=
  name ≠ "" ∧ ∀ c ∈ name.toList, isIdentifierChar c = true

instance (name : String) : Decidable (IsIdentifier name) :=
  decidable_of_iff (name ≠ "" ∧ name.toList.all isIdentifierChar = true) (by simp [IsIdentifier])

/-- Things whose texts can be told from each other, and from what follows them, in front of a text
that satisfies `next`. -/
def Unambiguous {α : Type} (write : α → List Char) (valid : α → Prop) (next : List Char → Prop) :
    Prop :=
  ∀ ⦃a b r s⦄, valid a → valid b → next r → next s → write a ++ r = write b ++ s → a = b ∧ r = s

namespace Unambiguous

def EndsName (cs : List Char) : Prop := ∀ c ∈ cs.head?, isIdentifierChar c = false

theorem endsName_nil : EndsName [] := by
  simp [EndsName]

theorem endsName_of_head? {c : Char} {cs : List Char} (hc : isIdentifierChar c = false)
    (h : cs.head? = some c) : EndsName cs := by
  intro c' hc'
  obtain rfl := Option.some.inj (h.symm.trans hc')
  exact hc

theorem identifier : Unambiguous String.toList IsIdentifier EndsName := by
  intro a b r s ha hb hr hs h
  have htake (name : String) (rest : List Char) (hname : IsIdentifier name)
      (hrest : EndsName rest) :
      (name.toList ++ rest).takeWhile isIdentifierChar = name.toList := by
    rw [List.takeWhile_append_of_pos hname.2]
    cases rest with
    | nil => simp
    | cons c rest => simp [hrest c (by simp)]
  have hname : a.toList = b.toList := by rw [← htake a r ha hr, h, htake b s hb hs]
  exact ⟨String.toList_inj.mp hname, List.append_cancel_left (hname ▸ h)⟩

variable {α : Type} {write : α → String} {valid : α → Prop} {next : List Char → Prop}

def furtherItems (write : α → String) (items : List α) : List Char :=
  items.flatMap fun item => ", ".toList ++ (write item).toList

theorem toList_intercalate_cons (item : α) (items : List α) :
    (String.intercalate ", " ((item :: items).map write)).toList =
      (write item).toList ++ furtherItems write items := by
  induction items generalizing item with
  | nil => simp [furtherItems]
  | cons next items ih =>
    rw [List.map_cons, List.map_cons, String.intercalate_cons_cons, ← List.map_cons,
      String.toList_append, ih]
    simp [furtherItems]

theorem head?_furtherItems {items : List α} {r : List Char} (h : items ≠ []) :
    (furtherItems write items ++ r).head? = some ',' := by
  cases items with
  | nil => exact absurd rfl h
  | cons item items => simp [furtherItems]

theorem furtherItems_append_ne {items : List α} {r s : List Char} (h : items ≠ [])
    (hs : s.head? ≠ some ',') : furtherItems write items ++ r ≠ s := by
  rintro rfl
  exact hs (head?_furtherItems h)

theorem next_furtherItems {items : List α} {r : List Char} (hr : next r) :
    next (furtherItems write items ++ r) ∨ (furtherItems write items ++ r).head? = some ',' := by
  by_cases hitems : items = []
  · exact .inl (by simpa [hitems, furtherItems] using hr)
  · exact .inr (head?_furtherItems hitems)

section Lists

variable (hitem : Unambiguous (fun a => (write a).toList) valid
    fun r => next r ∨ r.head? = some ',') (hnext : ∀ r, next r → r.head? ≠ some ',')
include hitem hnext

theorem further : Unambiguous (furtherItems write) (fun items => ∀ item ∈ items, valid item)
    next := by
  intro items
  induction items with
  | nil =>
    intro items' r s _ _ hr _ h
    by_cases hitems : items' = []
    · exact ⟨hitems.symm, by simpa [hitems, furtherItems] using h⟩
    · exact absurd h.symm (furtherItems_append_ne hitems (hnext r hr))
  | cons item items ih =>
    intro items' r s hv hv' hr hs h
    cases items' with
    | nil => exact absurd h (furtherItems_append_ne (List.cons_ne_nil item items) (hnext s hs))
    | cons item' items' =>
      have hcut : (write item).toList ++ (furtherItems write items ++ r) =
          (write item').toList ++ (furtherItems write items' ++ s) := by
        simpa [furtherItems] using h
      obtain ⟨rfl, hrest⟩ := hitem (hv _ (by simp)) (hv' _ (by simp)) (next_furtherItems hr)
        (next_furtherItems hs) hcut
      obtain ⟨rfl, rfl⟩ := ih (fun x hx => hv x (by simp [hx])) (fun x hx => hv' x (by simp [hx]))
        hr hs hrest
      exact ⟨rfl, rfl⟩

/-- A list is read item by item, if the end of an item is told by the comma behind it. -/
theorem intercalate : Unambiguous (fun items => (String.intercalate ", " (items.map write)).toList)
    (fun items => items ≠ [] ∧ ∀ item ∈ items, valid item) next := by
  rintro (_ | ⟨item, items⟩) (_ | ⟨item', items'⟩) r s hv hv' hr hs h
  · exact absurd rfl hv.1
  · exact absurd rfl hv.1
  · exact absurd rfl hv'.1
  · simp only [toList_intercalate_cons, List.append_assoc] at h
    obtain ⟨rfl, hrest⟩ := hitem (hv.2 _ (by simp)) (hv'.2 _ (by simp)) (next_furtherItems hr)
      (next_furtherItems hs) h
    obtain ⟨rfl, rfl⟩ := further hitem hnext (fun x hx => hv.2 x (by simp [hx]))
      (fun x hx => hv'.2 x (by simp [hx])) hr hs hrest
    exact ⟨rfl, rfl⟩

end Lists

abbrev NameList (next : List Char → Prop) : Prop :=
  Unambiguous (fun names => (String.intercalate ", " names).toList)
    (fun names => names ≠ [] ∧ ∀ name ∈ names, IsIdentifier name) next

theorem names (hends : ∀ r, next r → EndsName r) (hnext : ∀ r, next r → r.head? ≠ some ',') :
    NameList next := by
  have hname : Unambiguous (fun name => (id name : String).toList) IsIdentifier
      fun r => next r ∨ r.head? = some ',' := by
    have hafter (r : List Char) (hr : next r ∨ r.head? = some ',') : EndsName r := by
      rcases hr with hr | hr
      · exact hends r hr
      · exact endsName_of_head? (by decide) hr
    intro a b r s ha hb hr hs h
    exact identifier ha hb (hafter r hr) (hafter s hs) h
  simpa only [List.map_id] using intercalate hname hnext

theorem lastNames : NameList (· = []) :=
  names (fun _ hr => hr ▸ endsName_nil) (by simp)

theorem namesInParens : NameList (·.head? = some ')') :=
  names (fun _ hr => endsName_of_head? (by decide) hr) (by simp_all)

/-- The number of items is told even when the items are not. -/
theorem furtherItems_range' {write : Nat → String} {r s : List Char} (hr : r.head? ≠ some ',')
    (hs : s.head? ≠ some ',') {first n n' : Nat}
    (h : furtherItems write (List.range' first n) ++ r =
      furtherItems write (List.range' first n') ++ s) : n = n' ∧ r = s := by
  induction n generalizing first n' with
  | zero =>
    cases n' with
    | zero => exact ⟨rfl, by simpa [furtherItems] using h⟩
    | succ n' => exact absurd h.symm (furtherItems_append_ne (by simp) hr)
  | succ n ih =>
    cases n' with
    | zero => exact absurd h (furtherItems_append_ne (by simp) hs)
    | succ n' =>
      have htail : furtherItems write (List.range' (first + 1) n) ++ r =
          furtherItems write (List.range' (first + 1) n') ++ s := by
        simpa [furtherItems, List.range'_succ] using h
      obtain ⟨rfl, hrest⟩ := ih htail
      exact ⟨rfl, hrest⟩

theorem toList_intercalate_range (write : Nat → String) {n : Nat} (hn : 0 < n) :
    (String.intercalate ", " ((List.range n).map write)).toList =
      (write 0).toList ++ furtherItems write (List.range' 1 (n - 1)) := by
  obtain ⟨n, rfl⟩ := Nat.exists_eq_succ_of_ne_zero (Nat.ne_of_gt hn)
  rw [List.range_eq_range', List.range'_succ, toList_intercalate_cons, Nat.succ_sub_one]

theorem intercalate_range {write : Nat → String} {r s : List Char} {n n' : Nat} (hn : 0 < n)
    (hn' : 0 < n') (hr : r.head? ≠ some ',') (hs : s.head? ≠ some ',')
    (h : (String.intercalate ", " ((List.range n).map write)).toList ++ r =
      (String.intercalate ", " ((List.range n').map write)).toList ++ s) : n = n' ∧ r = s := by
  rw [toList_intercalate_range write hn, toList_intercalate_range write hn', List.append_assoc,
    List.append_assoc] at h
  obtain ⟨hcount, hrest⟩ := furtherItems_range' hr hs (List.append_cancel_left h)
  exact ⟨by omega, hrest⟩

end Unambiguous
end RowBatch
