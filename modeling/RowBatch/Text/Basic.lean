/-!
White space, blank texts, and cutting a list at the first element of a kind. The cut loses nothing,
and the part before it holds no such element.
-/

namespace RowBatch
namespace Text

/-- The ranges of code points that are white space. -/
def whiteSpaceRanges : List (Nat × Nat) :=
  [(0x09, 0x0d), (0x20, 0x20), (0x85, 0x85), (0xa0, 0xa0), (0x1680, 0x1680), (0x2000, 0x200a),
    (0x2028, 0x2029), (0x202f, 0x202f), (0x205f, 0x205f), (0x3000, 0x3000)]

def isWhiteSpace (c : Char) : Bool :=
  whiteSpaceRanges.any fun range => range.1 ≤ c.toNat && c.toNat ≤ range.2

/-- A text is blank when trimming it leaves nothing. -/
def isBlank (s : String) : Bool :=
  s.toList.all isWhiteSpace

def trim (cs : List Char) : List Char :=
  ((cs.dropWhile isWhiteSpace).reverse.dropWhile isWhiteSpace).reverse

theorem isBlank_eq_false_iff {s : String} :
    isBlank s = false ↔ ∃ c ∈ s.toList, isWhiteSpace c = false := by
  simp [isBlank]

/-- The part before the first element that satisfies `p`, that element, and the part after it. -/
def cutAt {α : Type} (p : α → Bool) : List α → Option (List α × α × List α)
  | [] => none
  | a :: rest =>
    if p a then some ([], a, rest)
    else (cutAt p rest).map fun cut => (a :: cut.1, cut.2)

theorem cutAt_eq_none_iff {α : Type} {p : α → Bool} {l : List α} :
    cutAt p l = none ↔ ∀ a ∈ l, p a = false := by
  induction l with
  | nil => simp [cutAt]
  | cons a rest ih => by_cases h : p a <;> simp [cutAt, h, ih]

theorem cutAt_eq_some_iff {α : Type} {p : α → Bool} {l before after : List α} {mark : α} :
    cutAt p l = some (before, mark, after) ↔
      l = before ++ mark :: after ∧ p mark = true ∧ ∀ a ∈ before, p a = false := by
  induction l generalizing before with
  | nil => simp [cutAt]
  | cons a rest ih =>
    by_cases h : p a
    · cases before with
      | nil =>
        simp only [cutAt, h, if_true, Option.some.injEq, Prod.mk.injEq, true_and, List.nil_append,
          List.cons.injEq, List.not_mem_nil, false_implies, implies_true, and_true]
        exact ⟨fun e => ⟨e, e.1 ▸ h⟩, fun e => e.1⟩
      | cons b before =>
        simp only [cutAt, h, if_true, Option.some.injEq, Prod.mk.injEq, List.nil_eq, reduceCtorEq,
          false_and, List.cons_append, List.cons.injEq, List.mem_cons, false_iff]
        rintro ⟨⟨rfl, -⟩, -, hb⟩
        simp [hb a (Or.inl rfl)] at h
    · cases before with
      | nil =>
        simp only [cutAt, h, Bool.false_eq_true, if_false, Option.map_eq_some_iff, Prod.mk.injEq,
          reduceCtorEq, false_and, and_false, exists_false, List.nil_append, List.cons.injEq,
          List.not_mem_nil, false_implies, implies_true, and_true, false_iff]
        rintro ⟨⟨rfl, -⟩, hm⟩
        exact h hm
      | cons b before =>
        simp only [cutAt, h, Bool.false_eq_true, if_false, Option.map_eq_some_iff, Prod.mk.injEq,
          List.cons.injEq, List.cons_append, List.mem_cons, forall_eq_or_imp]
        constructor
        · rintro ⟨⟨before', mark', after'⟩, hcut, ⟨rfl, rfl⟩, e⟩
          obtain ⟨rfl, rfl⟩ := Prod.mk.injEq .. ▸ e
          obtain ⟨hl, hm, hb⟩ := ih.mp hcut
          exact ⟨⟨rfl, hl⟩, hm, by simpa using h, hb⟩
        · rintro ⟨⟨rfl, hl⟩, hm, -, hb⟩
          exact ⟨(before, mark, after), ih.mpr ⟨hl, hm, hb⟩, ⟨rfl, rfl⟩, rfl⟩

theorem cutAt_eq_map_find? {α : Type} (p : α → Bool) (l : List α) :
    cutAt p l = (l.find? p).map fun mark =>
      (l.takeWhile fun a => !p a, mark, (l.dropWhile fun a => !p a).tail) := by
  induction l with
  | nil => rfl
  | cons a rest ih =>
    by_cases h : p a
    · simp [cutAt, h]
    · simp [cutAt, h, ih, Function.comp_def]

end Text
end RowBatch
