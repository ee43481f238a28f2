import RowBatch.Proofs.Markup.Written

/-!
The places of written characters. A written text is laid out character by character, and only what
stands at the start of a line can be the mark of a document.
-/

namespace RowBatch
namespace Markup

/-- A text that starts with a name or the mark of an item, or is at its end. -/
def Fresh (cs : List Char) : Prop := ∀ c ∈ cs.head?, isNameChar c = true

theorem Fresh.head {c : Char} {cs : List Char} (h : Fresh (c :: cs)) :
    isBlank c = false ∧ isBreak c = false ∧ c ≠ '#' ∧ c ≠ byteOrderMark :=
  gap_of_isNameChar (h c rfl)

namespace Glyph

variable {c : Char} {cs rest : List Char} {line column index : Nat}

@[simp] theorem length_layOut : (layOut line column index cs).length = cs.length := by
  rw [← List.length_map (f := char), map_char_layOut]

theorem layOut_cons (hc : isBreak c = false) :
    layOut line column index (c :: cs) =
      ⟨c, line, column, index⟩ :: layOut line (column + 1) (index + 1) cs := by
  simp [layOut, hc]

theorem layOut_break (hc : isBreak c = true) :
    layOut line column index (c :: cs) =
      ⟨c, line, column, index⟩ :: layOut (line + 1) 0 (index + 1) cs := by
  simp [layOut, hc]

@[simp] theorem atGap_layOut : atGap (layOut line column index cs) = cs.head?.all isGap := by
  cases cs <;> rfl

theorem atDocumentMark_of_column {g : Glyph} {glyphs : List Glyph} (h : g.column ≠ 0) :
    atDocumentMark (g :: glyphs) = false := by
  unfold atDocumentMark
  split <;> simp_all

theorem atDocumentMark_of_char {g : Glyph} {glyphs : List Glyph} (hminus : g.char ≠ '-')
    (hdot : g.char ≠ '.') : atDocumentMark (g :: glyphs) = false := by
  unfold atDocumentMark
  split <;> simp_all

theorem atDocumentMark_of_next {a b : Glyph} {glyphs : List Glyph} (h : b.char ≠ a.char) :
    atDocumentMark (a :: b :: glyphs) = false := by
  unfold atDocumentMark
  split <;> simp_all

theorem ofText?_of_isPrintable (h : cs.all Written.isPrintable = true) :
    ofText? cs = some (layOut 0 0 0 cs) := by
  have hunified : unifyBreaks cs = cs := by
    induction cs with
    | nil => rfl
    | cons c cs ih =>
      simp only [List.all_cons, Bool.and_eq_true] at h
      have hreturn := ne_of_holds h.1 (by decide : Written.isPrintable _ = false) (d := '\r')
      have hnext := ne_of_holds h.1 (by decide : Written.isPrintable _ = false) (d := '\u0085')
      rw [unifyBreaks, ih h.2]
      · simp [hreturn, hnext]
      · simp_all
  have hmark : cs.head? ≠ some byteOrderMark := by
    cases cs with
    | nil => simp
    | cons c cs =>
      simp only [List.all_cons, Bool.and_eq_true] at h
      simpa using ne_of_holds h.1 (by decide : Written.isPrintable _ = false) (d := byteOrderMark)
  have hallowed : cs.all isAllowed = true := by
    rw [List.all_eq_true] at h ⊢
    exact fun c hc => Written.isAllowed_of_isPrintable (h c hc)
  simp [ofText?, hmark, hallowed, hunified]

end Glyph

end Markup
end RowBatch
