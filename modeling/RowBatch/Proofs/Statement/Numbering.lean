import RowBatch.Proofs.Statement.Layout
import RowBatch.Proofs.Text.Unambiguous
import RowBatch.Proofs.Wire.Reading
import RowBatch.Statement.Reading

/-!
The marks of a clause are numbered through, row by row: read from left to right they are the marks
of the positions from zero on. A clause tells its rows and columns, and the clause of more rows goes
on with the numbers where that of fewer rows has ended.
-/

namespace RowBatch
namespace PlaceholderStyle

open Unambiguous (furtherItems)

/-- A mark that neither a comma nor a parenthesis interrupts. -/
def IsPlain (mark : String) : Prop := ∀ c ∈ mark.toList, c ≠ ',' ∧ c ≠ ')'

section Reading

variable {done : List String} {rest : List Char}

theorem readMarks_char {mark : List Char} {c : Char} (hcomma : c ≠ ',') (hparen : c ≠ ')') :
    readMarks done mark (c :: rest) = readMarks done (mark ++ [c]) rest := by
  rw [readMarks]
  · exact fun h => absurd h hparen
  · exact fun _ h => absurd h hcomma

theorem readMarks_chars {front mark : List Char} (h : ∀ c ∈ mark, c ≠ ',' ∧ c ≠ ')') :
    readMarks done front (mark ++ rest) = readMarks done (front ++ mark) rest := by
  induction mark generalizing front with
  | nil => simp
  | cons c mark ih =>
    have hc := h c List.mem_cons_self
    have htail : readMarks done (front ++ [c]) (mark ++ rest) =
        readMarks done (front ++ [c] ++ mark) rest := ih fun c hc => h c (List.mem_cons_of_mem _ hc)
    rw [List.cons_append, readMarks_char hc.1 hc.2, htail, List.append_assoc, List.singleton_append]

theorem readMarks_mark {mark : String} (h : IsPlain mark) :
    readMarks done [] (mark.toList ++ rest) = readMarks done mark.toList rest := by
  have hread : readMarks done [] (mark.toList ++ rest) = readMarks done ([] ++ mark.toList) rest :=
    readMarks_chars h
  rwa [List.nil_append] at hread

theorem readMarks_tuple {mark : String} {marks : List String} (hmark : IsPlain mark)
    (hmarks : ∀ mark ∈ marks, IsPlain mark) :
    readMarks done [] (mark.toList ++ (furtherItems id marks ++ ')' :: rest)) =
      (readFurther rest).map ((done ++ mark :: marks) :: ·) := by
  induction marks generalizing done mark with
  | nil => rw [readMarks_mark hmark]; simp [furtherItems, readMarks]
  | cons next marks ih =>
    have htail : readMarks (done ++ [mark]) []
        (next.toList ++ (furtherItems id marks ++ ')' :: rest)) =
          (readFurther rest).map ((done ++ [mark] ++ next :: marks) :: ·) :=
      ih (hmarks next List.mem_cons_self) fun mark hm => hmarks mark (List.mem_cons_of_mem _ hm)
    have hcomma : furtherItems id (next :: marks) ++ ')' :: rest =
        ',' :: ' ' :: (next.toList ++ (furtherItems id marks ++ ')' :: rest)) := by
      simp [furtherItems]
    rw [readMarks_mark hmark, hcomma, readMarks, String.ofList_toList, htail, List.append_assoc,
      List.singleton_append]

/-- A tuple that can be read back from its text. -/
structure IsTuple (tuple : List String) : Prop where
  ne_nil : tuple ≠ []
  plain : ∀ mark ∈ tuple, IsPlain mark

theorem readMarks_isTuple {tuple : List String} (h : IsTuple tuple) :
    readMarks [] [] ((String.intercalate ", " tuple).toList ++ ')' :: rest) =
      (readFurther rest).map (tuple :: ·) := by
  cases tuple with
  | nil => exact absurd rfl h.ne_nil
  | cons mark marks =>
    have hplain := List.forall_mem_cons.mp h.plain
    have htext : (String.intercalate ", " ((mark :: marks).map id)).toList =
        mark.toList ++ furtherItems id marks := Unambiguous.toList_intercalate_cons mark marks
    rw [List.map_id] at htext
    rw [htext, List.append_assoc, readMarks_tuple hplain.1 hplain.2, List.nil_append]

theorem toList_writeTuple (tuple : List String) : (writeTuple tuple).toList =
    '(' :: ((String.intercalate ", " tuple).toList ++ [')']) := by
  simp [writeTuple]

theorem readFurther_furtherItems {tuples : List (List String)} (h : ∀ tuple ∈ tuples, IsTuple tuple) :
    readFurther (furtherItems writeTuple tuples) = some tuples := by
  induction tuples with
  | nil => rfl
  | cons tuple tuples ih =>
    have htuple := List.forall_mem_cons.mp h
    have hcomma : furtherItems writeTuple (tuple :: tuples) = ',' :: ' ' :: '(' ::
        ((String.intercalate ", " tuple).toList ++ ')' :: furtherItems writeTuple tuples) := by
      simp [furtherItems, toList_writeTuple]
    rw [hcomma, readFurther, readMarks_isTuple htuple.1, ih htuple.2]
    rfl

theorem readTuples_writeTuples {tuples : List (List String)} (h : ∀ tuple ∈ tuples, IsTuple tuple) :
    readTuples (writeTuples tuples).toList = some tuples := by
  cases tuples with
  | nil => rfl
  | cons tuple tuples =>
    have htuple := List.forall_mem_cons.mp h
    have htext : (writeTuples (tuple :: tuples)).toList = '(' ::
        ((String.intercalate ", " tuple).toList ++ ')' :: furtherItems writeTuple tuples) := by
      rw [writeTuples, Unambiguous.toList_intercalate_cons, toList_writeTuple]
      simp
    rw [htext, readTuples, readMarks_isTuple htuple.1, readFurther_furtherItems htuple.2]
    rfl

end Reading

section Marks

variable (style : PlaceholderStyle) (columns rows : Nat)

theorem isPlain_placeholder (index : Nat) : IsPlain (style.placeholder index) := by
  cases style with
  | questionMark => simp [IsPlain, placeholder]
  | numbered =>
    have hdigit : ∀ c ∈ (Nat.repr (index + 1)).toList, c ≠ ',' ∧ c ≠ ')' := by
      intro c hc
      have hmem : c ∈ Nat.toDigits 10 (index + 1) := by simpa [Nat.repr] using hc
      have hdigit : c.isDigit = true := Nat.isDigit_of_mem_toDigits (by decide) (by decide) hmem
      constructor <;> rintro rfl <;> exact absurd hdigit (by decide)
    simpa [IsPlain, placeholder] using hdigit

theorem isTuple_of_mem_marks (hcolumns : 0 < columns) :
    ∀ tuple ∈ style.marks columns rows, IsTuple tuple := by
  intro tuple htuple
  have hlength := length_of_mem_marks style columns rows htuple
  refine ⟨List.ne_nil_of_length_pos (hlength ▸ hcolumns), ?_⟩
  obtain ⟨p, -, rfl⟩ := List.mem_map.mp htuple
  intro mark hmark
  obtain ⟨c, -, rfl⟩ := List.mem_map.mp hmark
  exact isPlain_placeholder style _

theorem valuesClause_eq_writeTuples :
    style.valuesClause columns rows = writeTuples (style.marks columns rows) :=
  valuesClause_eq_intercalate style columns rows

theorem readTuples_valuesClause (hcolumns : 0 < columns) :
    readTuples (style.valuesClause columns rows).toList = some (style.marks columns rows) := by
  rw [valuesClause_eq_writeTuples]
  exact readTuples_writeTuples (isTuple_of_mem_marks style columns rows hcolumns)

theorem flatten_marks :
    (style.marks columns rows).flatten = (List.range (columns * rows)).map style.placeholder := by
  induction rows with
  | zero => simp [marks]
  | succ rows ih =>
    have hlast : style.marks columns (rows + 1) = style.marks columns rows ++
        [(List.range columns).map fun c => style.placeholder (rows * columns + c)] := by
      simp [marks, List.range_succ]
    rw [hlast, List.flatten_append, ih, Nat.mul_succ, List.range_add, List.map_append]
    simp [Nat.mul_comm columns]

variable {style}

theorem number?_numbered (index : Nat) : number? (numbered.placeholder index) = some (index + 1) := by
  have hmark : (numbered.placeholder index).toList = '$' :: (Nat.repr (index + 1)).toList := by
    simp [placeholder]
  rw [number?, hmark]
  exact Wire.natural?_repr (index + 1)

theorem number?_questionMark (index : Nat) :
    number? (questionMark.placeholder index) = none := by
  simp [number?, placeholder]

theorem shiftMark_placeholder (k index : Nat) :
    shiftMark k (style.placeholder index) = style.placeholder (k + index) := by
  cases style with
  | questionMark =>
    rw [shiftMark, number?_questionMark]
    rfl
  | numbered =>
    have hsum : index + 1 + k = k + index + 1 := by omega
    simp only [shiftMark, number?_numbered, hsum]
    rfl

theorem numbers_marks : (numbered.marks columns rows).flatten.map number? =
    (List.range' 1 (columns * rows)).map some := by
  have hnumber : number? ∘ numbered.placeholder = fun index => some (1 + index) := by
    funext index
    rw [Function.comp_apply, number?_numbered, Nat.add_comm]
  rw [flatten_marks, List.map_map, hnumber, List.range'_eq_map_range, List.map_map]
  rfl

variable (style)

theorem marks_add (m n : Nat) : style.marks columns (m + n) = style.marks columns m ++
    (style.marks columns n).map (List.map (shiftMark (m * columns))) := by
  have hrow (p c : Nat) : style.placeholder ((m + p) * columns + c) =
      shiftMark (m * columns) (style.placeholder (p * columns + c)) := by
    rw [shiftMark_placeholder, Nat.add_mul, Nat.add_assoc]
  simp only [marks, List.range_add, List.map_append, List.map_map, Function.comp_def, hrow]

theorem marks_ne_nil {rows : Nat} (hrows : 0 < rows) : style.marks columns rows ≠ [] :=
  List.ne_nil_of_length_pos (by simpa using hrows)

variable {columns rows}

theorem writeTuples_append {tuples tuples' : List (List String)} (h : tuples ≠ [])
    (h' : tuples' ≠ []) :
    writeTuples (tuples ++ tuples') = writeTuples tuples ++ ", " ++ writeTuples tuples' := by
  rw [writeTuples, List.map_append]
  exact String.intercalate_append_of_ne_nil (by simpa using h) (by simpa using h')

theorem shift?_valuesClause (hcolumns : 0 < columns) (k : Nat) :
    shift? k (style.valuesClause columns rows) =
      some (writeTuples ((style.marks columns rows).map (List.map (shiftMark k)))) := by
  rw [shift?, readTuples_valuesClause style columns rows hcolumns, Option.map_some]

theorem valuesClause_add (hcolumns : 0 < columns) {m n : Nat} (hm : 0 < m) (hn : 0 < n) :
    ∃ later, shift? (m * columns) (style.valuesClause columns n) = some later ∧
      style.valuesClause columns (m + n) = style.valuesClause columns m ++ ", " ++ later := by
  refine ⟨_, shift?_valuesClause style hcolumns _, ?_⟩
  have hlater : (style.marks columns n).map (List.map (shiftMark (m * columns))) ≠ [] := by
    simpa using marks_ne_nil style columns hn
  rw [valuesClause_eq_writeTuples, marks_add, writeTuples_append (marks_ne_nil style columns hm) hlater,
    valuesClause_eq_writeTuples]

theorem shift?_questionMark (hcolumns : 0 < columns) (k : Nat) :
    shift? k (questionMark.valuesClause columns rows) =
      some (questionMark.valuesClause columns rows) := by
  have hsame (index : Nat) : shiftMark k (questionMark.placeholder index) =
      questionMark.placeholder index := shiftMark_placeholder k index
  rw [shift?_valuesClause questionMark hcolumns, valuesClause_eq_writeTuples]
  simp only [marks, List.map_map, Function.comp_def, hsame]

/-- A clause with at least one row tells the number of its columns and of its rows. -/
theorem eq_of_valuesClause_eq {columns' rows' : Nat} (hcolumns : 0 < columns)
    (hcolumns' : 0 < columns') (hrows : 0 < rows)
    (h : style.valuesClause columns rows = style.valuesClause columns' rows') :
    columns = columns' ∧ rows = rows' := by
  have hmarks : style.marks columns rows = style.marks columns' rows' := by
    have hread := readTuples_valuesClause style columns rows hcolumns
    rw [h, readTuples_valuesClause style columns' rows' hcolumns'] at hread
    exact (Option.some.inj hread).symm
  have hcount : rows = rows' := by
    simpa using congrArg List.length hmarks
  obtain ⟨tuple, htuple⟩ := List.exists_mem_of_ne_nil _ (marks_ne_nil style columns hrows)
  have hwidth := length_of_mem_marks style columns rows htuple
  have hwidth' := length_of_mem_marks style columns' rows' (hmarks ▸ htuple)
  exact ⟨hwidth.symm.trans hwidth', hcount⟩

end Marks

section Fitting

theorem fit?_of_lt {n : Nat} (h : n < UInt64.size) : fit? n = some n := if_pos h

theorem mapM_eq_some_map {α β : Type} {f : α → Option β} {g : α → β} {l : List α}
    (h : ∀ a ∈ l, f a = some (g a)) : l.mapM f = some (l.map g) := by
  induction l with
  | nil => rfl
  | cons a l ih =>
    have hl := List.forall_mem_cons.mp h
    rw [List.mapM_cons, hl.1, ih hl.2]
    rfl

variable {style : PlaceholderStyle} {columns rows : Nat}

theorem position_lt {p c : Nat} (hp : p < rows) (hc : c < columns) :
    p * columns + c < columns * rows :=
  calc p * columns + c < p * columns + columns := Nat.add_lt_add_left hc _
    _ = (p + 1) * columns := (Nat.succ_mul p columns).symm
    _ ≤ rows * columns := Nat.mul_le_mul_right columns hp
    _ = columns * rows := Nat.mul_comm rows columns

theorem placeholder?_of_lt {index : Nat} (h : index + 1 < UInt64.size) :
    style.placeholder? index = some (style.placeholder index) := by
  cases style with
  | questionMark => rfl
  | numbered =>
    rw [placeholder?, fit?_of_lt h]
    rfl

theorem tuple?_of_fits {p : Nat} (hfit : columns * rows < UInt64.size) (hp : p < rows) :
    style.tuple? columns (p * columns) = some (style.tuple columns (p * columns)) := by
  have hmarks : ∀ c ∈ List.range columns,
      (do style.placeholder? (← fit? (p * columns + c))) =
        some (style.placeholder (p * columns + c)) := by
    intro c hc
    have hposition := position_lt hp (List.mem_range.mp hc)
    rw [fit?_of_lt (by omega)]
    exact placeholder?_of_lt (by omega)
  rw [tuple?, mapM_eq_some_map hmarks]
  rfl

/-- When there are not more marks than fit in a machine word, no position and no number overflows. -/
theorem valuesClause?_of_fits (hcolumns : 0 < columns) (hfit : columns * rows < UInt64.size) :
    style.valuesClause? columns rows = some (style.valuesClause columns rows) := by
  have htuples : ∀ p ∈ List.range rows,
      (do style.tuple? columns (← fit? (p * columns))) =
        some (style.tuple columns (p * columns)) := by
    intro p hp
    have hposition := position_lt (List.mem_range.mp hp) hcolumns
    rw [fit?_of_lt (by omega)]
    exact tuple?_of_fits hfit (List.mem_range.mp hp)
  rw [valuesClause?, mapM_eq_some_map htuples]
  rfl

end Fitting

/-- The marks of a clause are numbered through, in tuples of one mark for each column and one tuple for
each row, and no number overflows. The clause of more rows goes on with the numbers, and a clause
tells how many rows and columns it has. -/
theorem marks_numbered_through (style : PlaceholderStyle) {columns rows : Nat} (hcolumns : 1 ≤ columns)
    (hfit : columns * rows < UInt64.size) :
    (∃ tuples, readTuples (style.valuesClause columns rows).toList = some tuples ∧
      style.valuesClause columns rows = writeTuples tuples ∧ tuples.length = rows ∧
      (∀ tuple ∈ tuples, tuple.length = columns) ∧
      tuples.flatten = (List.range (columns * rows)).map style.placeholder ∧
      (style = .numbered →
        tuples.flatten.map number? = (List.range' 1 (columns * rows)).map some)) ∧
    style.valuesClause? columns rows = some (style.valuesClause columns rows) ∧
    (∀ m n, 1 ≤ m → 1 ≤ n →
      ∃ later, shift? (m * columns) (style.valuesClause columns n) = some later ∧
        style.valuesClause columns (m + n) = style.valuesClause columns m ++ ", " ++ later ∧
        (style = .questionMark → later = style.valuesClause columns n)) ∧
    ∀ columns' rows', 1 ≤ columns' → 1 ≤ rows →
      style.valuesClause columns rows = style.valuesClause columns' rows' →
      columns = columns' ∧ rows = rows' := by
  refine ⟨⟨style.marks columns rows, readTuples_valuesClause style columns rows hcolumns,
    valuesClause_eq_writeTuples style columns rows, length_marks style columns rows,
    fun tuple htuple => length_of_mem_marks style columns rows htuple,
    flatten_marks style columns rows, ?_⟩, valuesClause?_of_fits hcolumns hfit, ?_,
    fun _ _ hcolumns' hrows => eq_of_valuesClause_eq style hcolumns hcolumns' hrows⟩
  · rintro rfl
    exact numbers_marks columns rows
  · intro m n hm hn
    obtain ⟨later, hlater, hclause⟩ := valuesClause_add style hcolumns hm hn
    refine ⟨later, hlater, hclause, ?_⟩
    rintro rfl
    exact Option.some.inj (hlater.symm.trans (shift?_questionMark hcolumns _))

theorem threeColumns_numbered_through : 1 ≤ 3 ∧ 3 * 2 < UInt64.size ∧
    ∃ tuples, readTuples (numbered.valuesClause 3 2).toList = some tuples ∧ tuples.length = 2 ∧
      tuples.flatten.map number? = [some 1, some 2, some 3, some 4, some 5, some 6] ∧
      numbered.valuesClause? 3 2 = some (numbered.valuesClause 3 2) ∧
      ∃ later, shift? (2 * 3) (numbered.valuesClause 3 4) = some later ∧
        numbered.valuesClause 3 (2 + 4) = numbered.valuesClause 3 2 ++ ", " ++ later := by
  have hfit : 3 * 2 < UInt64.size := by decide
  obtain ⟨⟨tuples, hread, -, hrows, -, -, hnumbers⟩, hchecked, hmore, -⟩ :=
    marks_numbered_through .numbered (by decide) hfit
  obtain ⟨later, hlater, hclause, -⟩ := hmore 2 4 (by decide) (by decide)
  exact ⟨by decide, hfit, tuples, hread, hrows, hnumbers rfl, hchecked, later, hlater, hclause⟩

end PlaceholderStyle
end RowBatch
