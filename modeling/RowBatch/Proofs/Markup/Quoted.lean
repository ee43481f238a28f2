import RowBatch.Markup.Scalar.Flow
import RowBatch.Proofs.Markup.Layout

/-!
Between quotes a text is read back from what was written for it, break by break between single
quotes and escape by escape between double ones.
-/

namespace RowBatch
namespace Markup
namespace Quoted

open Glyph (layOut)
open Written (allowsSingle allowsSingle_cons isBlank_of_isPrintable isSpace isBare single
  indentation hex numbered escaped upperDigit)

@[simp] theorem broken_addBreak {gap : Gap} {c : Char} : (gap.addBreak c).broken = true := by
  cases gap <;> rfl

@[simp] theorem broken_addBlank {gap : Gap} {c : Char} : (gap.addBlank c).broken = gap.broken := by
  cases gap <;> rfl

theorem text_lines {first further : List Char} (h : first ≠ ['\n']) :
    (Gap.lines first further).text = first ++ further := by
  unfold Gap.text
  split <;> simp_all

@[simp] theorem cons_some (text more : List Char) (rest : List Glyph) :
    cons text (some (more, rest)) = some (text ++ more, rest) := rfl

@[simp] theorem cons_nil (read : Option (List Char × List Glyph)) : cons [] read = read := by
  cases read <;> rfl

@[simp] theorem cons_cons (text more : List Char) (read : Option (List Char × List Glyph)) :
    cons text (cons more read) = cons (text ++ more) read := by
  cases read <;> simp [cons]

section Single

variable {c : Char} {rest more : List Char} {gap : Gap} {line column index : Nat}

theorem readSingle_space :
    readSingle gap (layOut line column index (' ' :: rest)) =
      readSingle (gap.addBlank ' ') (layOut line (column + 1) (index + 1) rest) := by
  rw [Glyph.layOut_cons isBreak_space, readSingle.eq_def]
  simp [Glyph.atDocumentMark_of_char]

theorem readSingle_break (hc : isBreak c = true) :
    readSingle gap (layOut line column index (c :: rest)) =
      readSingle (gap.addBreak c) (layOut (line + 1) 0 (index + 1) rest) := by
  have hminus : c ≠ '-' := ne_of_holds hc (by decide)
  have hdot : c ≠ '.' := ne_of_holds hc (by decide)
  have hblank : isBlank c = false := by
    simp [isBlank, ne_of_holds hc isBreak_space, ne_of_holds hc (by decide : isBreak '\t' = false)]
  rw [Glyph.layOut_break hc, readSingle.eq_def]
  simp [Glyph.atDocumentMark_of_char, hminus, hdot, hblank, hc]

theorem readSingle_indentation (hcolumn : gap.broken = false → column ≠ 0) :
    ∃ column' index', column' ≠ 0 ∧
      readSingle gap (layOut line column index ((if gap.broken then indentation else []) ++ rest)) =
        readSingle gap (layOut line column' index' rest) := by
  cases gap with
  | blanks read => exact ⟨column, index, hcolumn rfl, rfl⟩
  | lines first further =>
    refine ⟨column + 2, index + 2, by omega, ?_⟩
    simp [Gap.broken, indentation, readSingle_space, Gap.addBlank]

theorem readSingle_char (hblank : isBlank c = false) (hbreak : isBreak c = false)
    (hcolumn : column ≠ 0) :
    ∃ column' index', column' ≠ 0 ∧
      readSingle gap (layOut line column index ((if c == '\x27' then [c, c] else [c]) ++ rest)) =
        cons (gap.text ++ [c]) (readSingle .none (layOut line column' index' rest)) := by
  by_cases hquote : c = '\x27'
  · subst hquote
    refine ⟨column + 2, index + 2, by omega, ?_⟩
    simp [hbreak, hblank, Glyph.layOut_cons, readSingle, Glyph.atDocumentMark_of_column, hcolumn]
  · refine ⟨column + 1, index + 1, by omega, ?_⟩
    rw [if_neg (by simpa using hquote), List.singleton_append, Glyph.layOut_cons hbreak,
      readSingle.eq_def]
    simp [hquote, hblank, hbreak, Glyph.atDocumentMark_of_column, hcolumn]

theorem readSingle_close (hcolumn : column ≠ 0) :
    readSingle gap (layOut line column index ('\x27' :: '\n' :: more)) =
      some (gap.text, layOut line (column + 1) (index + 1) ('\n' :: more)) := by
  have hquote : isBlank '\x27' = false ∧ isBreak '\x27' = false := by decide
  simp [Glyph.layOut_cons, Glyph.layOut_break, hquote, readSingle, Glyph.atDocumentMark_of_column,
    hcolumn]

/-- Whether a gap that ends in a column is kept in front of a text. -/
def Keeps (column : Nat) (cs : List Char) : Gap → Prop
  | .blanks read => column ≠ 0 ∧ (read = [] ∨ ∀ c ∈ cs.head?, isBreak c = false)
  | .lines first _ => column = 0 ∧ first ≠ ['\n'] ∧ ∀ c ∈ cs.head?, isSpace c = false

theorem Keeps.column_ne_zero {cs : List Char} (h : Keeps column cs gap)
    (hgap : gap.broken = false) : column ≠ 0 := by
  cases gap with
  | blanks read => exact h.1
  | lines first further => simp [Gap.broken] at hgap

theorem Keeps.addSpace {cs : List Char} (h : Keeps column (' ' :: cs) gap)
    (hcs : ∀ d ∈ cs.head?, isBreak d = false) :
    gap.broken = false ∧ Keeps (column + 1) cs (gap.addBlank ' ') ∧
      (gap.addBlank ' ').text = gap.text ++ [' '] := by
  cases gap with
  | blanks read => exact ⟨rfl, ⟨by omega, .inr hcs⟩, rfl⟩
  | lines first further => exact absurd (h.2.2 ' ' rfl) (by decide)

theorem Keeps.addBreak {cs : List Char} (h : Keeps column (c :: cs) gap) (hc : isBreak c = true)
    (hfeed : c ≠ '\n') (hcs : ∀ d ∈ cs.head?, isSpace d = false) :
    Keeps 0 cs (gap.addBreak c) ∧ (gap.addBreak c).text = gap.text ++ [c] := by
  cases gap with
  | blanks read =>
    have hread : read = [] := h.2.resolve_right fun hbreak => by simp [hbreak c rfl] at hc
    have hfirst : [c] ≠ ['\n'] := by simpa using hfeed
    subst hread
    exact ⟨⟨rfl, hfirst, hcs⟩, text_lines hfirst⟩
  | lines first further =>
    exact ⟨⟨rfl, h.2.1, hcs⟩, by simp [Gap.addBreak, text_lines h.2.1]⟩

theorem readSingle_single {cs : List Char} (h : allowsSingle cs = true) (hfeed : '\n' ∉ cs)
    (hgap : Keeps column cs gap) :
    ∃ line' column' index', line ≤ line' ∧
      readSingle gap
          (layOut line column index (single gap.broken cs ++ '\x27' :: '\n' :: more)) =
        some (gap.text ++ cs, layOut line' column' index' ('\n' :: more)) := by
  -- The reader drops blanks beside a break and folds a line feed; the invariant `Keeps` excludes both
  -- where the gap read so far meets the text behind it.
  induction cs generalizing gap line column index with
  | nil =>
    obtain ⟨column', index', hcolumn', hread⟩ := readSingle_indentation hgap.column_ne_zero
    exact ⟨line, column' + 1, index' + 1, Nat.le_refl line, by
      rw [single, hread, readSingle_close hcolumn', List.append_nil]⟩
  | cons c cs ih =>
    obtain ⟨hprintable, hspaceNext, hbreakNext, hcs⟩ := allowsSingle_cons h
    rw [List.mem_cons, not_or] at hfeed
    have ih {gap : Gap} {line column : Nat} (index : Nat) :=
      @ih gap line column index hcs hfeed.2
    by_cases hbreak : isBreak c = true
    · obtain ⟨hkeeps, htext⟩ := hgap.addBreak hbreak (Ne.symm hfeed.1) (hbreakNext hbreak)
      obtain ⟨line', column', index', hline, hread⟩ := ih (index + 1) hkeeps
      refine ⟨line', column', index', Nat.le_of_succ_le hline, ?_⟩
      rw [single, if_pos hbreak, List.cons_append, readSingle_break hbreak, ← broken_addBreak,
        hread, htext, List.append_assoc, List.singleton_append]
    · by_cases hspace : c = ' '
      · subst hspace
        obtain ⟨hbroken, hkeeps, htext⟩ := hgap.addSpace (hspaceNext rfl)
        obtain ⟨line', column', index', hline, hread⟩ := ih (index + 1) hkeeps
        refine ⟨line', column', index', hline, ?_⟩
        have hrest : single gap.broken (' ' :: cs) =
            ' ' :: single (gap.addBlank ' ').broken cs := by
          simp [single, hbroken]
        rw [hrest, List.cons_append, readSingle_space, hread, htext, List.append_assoc,
          List.singleton_append]
      · have hblank : isBlank c = false := isBlank_of_isPrintable hprintable hspace
        have hbreak : isBreak c = false := by simpa using hbreak
        obtain ⟨column₁, index₁, hcolumn₁, hindentation⟩ :=
          readSingle_indentation hgap.column_ne_zero
        obtain ⟨column₂, index₂, hcolumn₂, hchar⟩ := readSingle_char hblank hbreak hcolumn₁
        obtain ⟨line', column', index', hline, hread⟩ :=
          ih index₂ (show Keeps column₂ cs .none from ⟨hcolumn₂, .inl rfl⟩)
        refine ⟨line', column', index', hline, ?_⟩
        rw [single, if_neg (by simp [hbreak]), List.append_assoc, List.append_assoc, hindentation,
          hchar, show false = Gap.none.broken from rfl, hread]
        simp [Gap.none, Gap.text]

theorem readSingle_text {cs : List Char} (h : allowsSingle cs = true) (hfeed : '\n' ∉ cs)
    (more : List Char) (line : Nat) {column : Nat} (index : Nat) (hcolumn : column ≠ 0) :
    ∃ line' column' index', line ≤ line' ∧
      readSingle .none (layOut line column index (single false cs ++ '\x27' :: '\n' :: more)) =
        some (cs, layOut line' column' index' ('\n' :: more)) :=
  readSingle_single h hfeed (show Keeps column cs .none from ⟨hcolumn, .inl rfl⟩)

end Single

section Double

variable {c : Char} {rest : List Char} {line column index : Nat}

theorem char?_toNat (c : Char) : char? c.toNat = some c := by
  have hvalid : c.toNat.isValidChar := c.valid
  simp [char?, hvalid]

theorem hexDigit?_upperDigit (d : Fin 16) : hexDigit? (upperDigit d) = some d.val := by
  revert d
  decide

theorem isBreak_upperDigit (d : Fin 16) : isBreak (upperDigit d) = false := by
  revert d
  decide

theorem readDouble_code {digits : List (Fin 16)} {left value : Nat}
    (hlength : digits.length = left + 1)
    (hvalue : digits.foldl (fun n d => 16 * n + d.val) value = c.toNat) :
    readDouble (.code left value) (layOut line column index (digits.map upperDigit ++ rest)) =
      cons [c] (readDouble (.text .none)
        (layOut line (column + digits.length) (index + digits.length) rest)) := by
  induction digits generalizing left value column index with
  | nil => simp at hlength
  | cons d digits ih =>
    rw [List.foldl_cons] at hvalue
    rw [List.map_cons, List.cons_append, Glyph.layOut_cons (isBreak_upperDigit d), readDouble,
      hexDigit?_upperDigit]
    cases left with
    | zero =>
      obtain rfl := List.eq_nil_of_length_eq_zero (by simpa using hlength)
      rw [List.foldl_nil] at hvalue
      simp [hvalue, char?_toNat]
    | succ left =>
      have hlength' : digits.length = left + 1 := by simpa using hlength
      simpa [Nat.add_assoc, Nat.add_comm 1] using
        @ih (column + 1) (index + 1) left (16 * value + d.val) hlength' hvalue

/-- An escape is read back, wherever it stands. -/
def Escapes (c : Char) (body : List Char) : Prop :=
  ∀ line column index rest,
    readDouble .escape (layOut line column index (body ++ rest)) =
      cons [c] (readDouble (.text .none)
        (layOut line (column + body.length) (index + body.length) rest))

theorem escapes_named {mark : Char} (h : escaped? mark = some c) : Escapes c [mark] := by
  intro line column index rest
  have hbreak : isBreak mark = false := by
    refine Bool.eq_false_iff.mpr fun hbreak => ?_
    rcases isBreak_iff.mp hbreak with rfl | rfl | rfl <;> simp [escaped?] at h
  simp [Glyph.layOut_cons hbreak, readDouble, hbreak, h]

theorem escapes_hex {mark : Char} {width : Nat} (hmark : escaped? mark = none)
    (hdigits : digits? mark = some width) (hc : c.toNat < 16 ^ (width + 1)) :
    Escapes c (mark :: hex (width + 1) c.toNat) := by
  intro line column index rest
  have hbreak : isBreak mark = false := by
    refine Bool.eq_false_iff.mpr fun hbreak => ?_
    rcases isBreak_iff.mp hbreak with rfl | rfl | rfl <;> simp [digits?] at hdigits
  obtain ⟨digits, hhex, hvalue⟩ := Written.hex_eq (width + 1) c.toNat
  have hlength := Written.length_hex hc (Nat.succ_pos width)
  rw [hhex, List.length_map] at hlength
  simp [Glyph.layOut_cons hbreak, readDouble, hbreak, hmark, hdigits, hhex,
    readDouble_code hlength hvalue, hlength, Nat.add_assoc, Nat.add_comm 1]

theorem escapes_numbered (c : Char) : Escapes c (numbered c) := by
  have hc : c.toNat < 16 ^ 8 := c.val.toNat_lt
  unfold numbered
  split
  · exact escapes_hex rfl rfl (by omega)
  · split
    · exact escapes_hex rfl rfl (by omega)
    · exact escapes_hex rfl rfl hc

theorem exists_escape (h : isBare c = false) :
    ∃ body, escaped c = '\\' :: body ∧ Escapes c body := by
  unfold isBare at h
  unfold escaped
  rw [if_neg (by simp [h])]
  refine ⟨_, rfl, ?_⟩
  split
  case h_15 => exact escapes_numbered c
  all_goals exact escapes_named rfl

/-- A character is read back from what is written for it, either at once or as part of a gap. -/
theorem readDouble_escaped (c : Char) (read rest : List Char) (line index : Nat)
    (hcolumn : column ≠ 0) :
    ∃ text read' column' index', text ++ read' = read ++ [c] ∧ column' ≠ 0 ∧
      readDouble (.text (.blanks read)) (layOut line column index (escaped c ++ rest)) =
        cons text (readDouble (.text (.blanks read')) (layOut line column' index' rest)) := by
  by_cases hbare : isBare c = true
  · have hescaped : escaped c = [c] := by
      simp only [isBare] at hbare
      simp [escaped, hbare]
    simp only [isBare, Bool.and_eq_true, Bool.not_eq_true', bne_iff_ne] at hbare
    obtain ⟨⟨⟨hprintable, hbreak⟩, hquote⟩, hbackslash⟩ := hbare
    by_cases hspace : c = ' '
    · subst hspace
      refine ⟨[], read ++ [' '], column + 1, index + 1, rfl, by omega, ?_⟩
      simp [hescaped, Glyph.layOut_cons, readDouble, Glyph.atDocumentMark_of_char, Gap.addBlank]
    · have hblank : isBlank c = false := isBlank_of_isPrintable hprintable hspace
      refine ⟨read ++ [c], [], column + 1, index + 1, by simp, by omega, ?_⟩
      simp [hescaped, Glyph.layOut_cons hbreak, readDouble, Glyph.atDocumentMark_of_column, hcolumn,
        hblank, hbreak, hquote, hbackslash, Gap.text, Gap.none]
  · obtain ⟨body, hescaped, hbody⟩ := exists_escape (by simpa using hbare)
    refine ⟨read ++ [c], [], column + 1 + body.length, index + 1 + body.length, by simp, by omega,
      ?_⟩
    have hmark : isBlank '\\' = false ∧ isBreak '\\' = false := by decide
    rw [hescaped, List.cons_append, Glyph.layOut_cons hmark.2, readDouble, hbody]
    simp [hmark, Glyph.atDocumentMark_of_column, hcolumn, Gap.text, Gap.none]

theorem readDouble_flatMap_escaped {cs read : List Char} (hcolumn : column ≠ 0) :
    ∃ column' index',
      readDouble (.text (.blanks read))
          (layOut line column index (cs.flatMap escaped ++ '\x22' :: rest)) =
        some (read ++ cs, layOut line column' index' rest) := by
  induction cs generalizing read column index with
  | nil =>
    have hmark : isBlank '\x22' = false ∧ isBreak '\x22' = false := by decide
    refine ⟨column + 1, index + 1, ?_⟩
    simp [Glyph.layOut_cons hmark.2, readDouble, hmark, Glyph.atDocumentMark_of_column, hcolumn,
      Gap.text]
  | cons c cs ih =>
    obtain ⟨text, read', column₁, index₁, htext, hcolumn₁, hchar⟩ :=
      readDouble_escaped c read (cs.flatMap escaped ++ '\x22' :: rest) line index hcolumn
    obtain ⟨column', index', hread⟩ := @ih column₁ index₁ read' hcolumn₁
    refine ⟨column', index', ?_⟩
    have hwhole : text ++ (read' ++ cs) = read ++ c :: cs := by
      rw [← List.append_assoc, htext, List.append_assoc, List.singleton_append]
    rw [List.flatMap_cons, List.append_assoc, hchar, hread, cons_some, hwhole]

theorem readDouble_text (cs rest : List Char) (line : Nat) {column : Nat} (index : Nat)
    (hcolumn : column ≠ 0) :
    ∃ column' index',
      readDouble (.text .none) (layOut line column index (cs.flatMap escaped ++ '\x22' :: rest)) =
        some (cs, layOut line column' index' rest) :=
  readDouble_flatMap_escaped hcolumn

end Double

end Quoted
end Markup
end RowBatch
