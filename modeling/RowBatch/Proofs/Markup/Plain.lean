import RowBatch.Markup.Scalar.Flow
import RowBatch.Proofs.Markup.Layout

/-!
A text that may be written without quotes is read to its end, wherever on a line it stands.
-/

namespace RowBatch
namespace Markup
namespace Plain

open Glyph (layOut)
open Written (hasPair hasPair_cons_eq_false endsWith isSpace)

/-- A text on one line in which no scalar ends. -/
structure Uncut (cs : List Char) : Prop where
  oneLine : ∀ c ∈ cs, isBreak c = false
  noTab : '\t' ∉ cs
  colon : hasPair (· == ':') isGap cs = false
  lastColon : endsWith (· == ':') cs = false
  comment : hasPair isGap (· == '#') cs = false
  lastSpace : endsWith isSpace cs = false

theorem Uncut.of_cons {c : Char} {cs : List Char} (h : Uncut (c :: cs)) : Uncut cs where
  oneLine x hx := h.oneLine x (List.mem_cons_of_mem c hx)
  noTab hx := h.noTab (List.mem_cons_of_mem c hx)
  colon := (hasPair_cons_eq_false.mp h.colon).2
  lastColon := by
    cases cs with
    | nil => rfl
    | cons d cs => simpa [endsWith] using h.lastColon
  comment := (hasPair_cons_eq_false.mp h.comment).2
  lastSpace := by
    cases cs with
    | nil => rfl
    | cons d cs => simpa [endsWith] using h.lastSpace

theorem Uncut.atGap {cs tail : List Char} {line column index : Nat} (h : Uncut (':' :: cs)) :
    Glyph.atGap (layOut line column index (cs ++ tail)) = false := by
  cases cs with
  | nil => exact absurd h.lastColon (by decide)
  | cons d cs => exact (hasPair_cons_eq_false.mp h.colon).1 rfl d rfl

theorem Uncut.not_comment {c : Char} {cs : List Char} (h : Uncut (c :: cs)) (hc : isGap c = true) :
    cs.head? ≠ some '#' := fun hhash => by
  simpa using (hasPair_cons_eq_false.mp h.comment).1 hc '#' hhash

theorem uncut_of_allowsPlain {cs : List Char} (h : Written.allowsPlain cs = true) : Uncut cs := by
  simp only [Written.allowsPlain, Written.hasMark, Bool.and_eq_true, Bool.not_eq_true',
    Bool.or_eq_false_iff, List.any_eq_false] at h
  obtain ⟨⟨⟨⟨hprintable, hbreak⟩, -⟩, hspace⟩, ⟨⟨⟨-, hcolon⟩, hlast⟩, hcomment⟩⟩ := h
  refine ⟨fun c hc => by simpa using hbreak c hc, fun htab => ?_, hcolon, hlast, hcomment, hspace⟩
  exact absurd (List.all_eq_true.mp hprintable _ htab) (by decide)

/-- A scalar goes on through the text, from behind blanks `blanks` on its line. -/
theorem read_append_of_ne_nil {cs tail blanks : List Char} {line column index indent : Nat}
    (h : Uncut cs) (hcs : cs ≠ []) (hblanks : blanks = [] ∨ (column ≠ 0 ∧ cs.head? ≠ some '#')) :
    read false indent (.blanks blanks) (layOut line column index (cs ++ tail)) =
      (read false indent .none
        (layOut line (column + cs.length) (index + cs.length) tail)).map
          fun (text, after) => (blanks ++ cs ++ text, after) := by
  -- Only what stands next to a blank or a colon can end the scalar, so that each step needs to look
  -- at one pair of neighbours; blanks wait in the gap until a character follows them.
  induction cs generalizing blanks column index with
  | nil => exact absurd rfl hcs
  | cons c cs ih =>
    have hbreak : isBreak c = false := h.oneLine c (by simp)
    have htab : c ≠ '\t' := fun htab => h.noTab (by simp [htab])
    rw [List.cons_append, Glyph.layOut_cons hbreak, read]
    by_cases hspace : c = ' '
    · subst hspace
      have hmore : cs ≠ [] := by
        rintro rfl
        exact absurd h.lastSpace (by decide)
      simpa [isBlank, Gap.addBlank, Gap.broken, Nat.add_assoc, Nat.add_comm 1] using
        @ih (blanks ++ [' ']) (column + 1) (index + 1) h.of_cons hmore
          (.inr ⟨by omega, h.not_comment (by decide)⟩)
    · have hblank : isBlank c = false := by simp [isBlank, hspace, htab]
      have hafter : endsAfter (.blanks blanks) false indent ⟨c, line, column, index⟩
          (layOut line (column + 1) (index + 1) (cs ++ tail)) = false := by
        rcases hblanks with rfl | ⟨hcolumn, hhash⟩
        · simp [endsAfter, Gap.none]
        · simp_all [endsAfter, Glyph.atDocumentMark_of_column, Gap.broken]
      have hat : endsAt false ⟨c, line, column, index⟩
          (layOut line (column + 1) (index + 1) (cs ++ tail)) = false := by
        by_cases hcolon : c = ':'
        · subst hcolon
          simp [endsAt, h.atGap]
        · simp [endsAt, hcolon]
      have hrest : read false indent .none (layOut line (column + 1) (index + 1) (cs ++ tail)) =
          (read false indent .none
            (layOut line (column + 1 + cs.length) (index + 1 + cs.length) tail)).map
              fun (text, after) => (cs ++ text, after) := by
        by_cases hmore : cs = []
        · simp [hmore]
        · exact ih h.of_cons hmore (.inl rfl)
      simp [hblank, hbreak, hafter, hat, hrest, Gap.text, Function.comp_def, Nat.add_assoc,
        Nat.add_comm 1]

theorem read_append {cs tail : List Char} {line column index indent : Nat} (h : Uncut cs) :
    read false indent .none (layOut line column index (cs ++ tail)) =
      (read false indent .none
        (layOut line (column + cs.length) (index + cs.length) tail)).map
          fun (text, after) => (cs ++ text, after) := by
  by_cases hcs : cs = []
  · simp [hcs]
  · exact read_append_of_ne_nil h hcs (.inl rfl)

theorem read_line {cs more : List Char} {line column index : Nat} (h : Uncut cs)
    (hmore : Fresh more) :
    read false 1 .none (layOut line column index (cs ++ '\n' :: more)) =
      some (cs, true, layOut (line + 1) 0 (index + cs.length + 1) more) := by
  rw [read_append h, Glyph.layOut_break isBreak_lineFeed, read]
  cases more with
  | nil => simp [layOut, read, Gap.addBreak, Gap.none, Gap.broken]
  | cons c more =>
    obtain ⟨hblank, hbreak, -⟩ := hmore.head
    simp [Glyph.layOut_cons hbreak, read, hblank, hbreak, Gap.addBreak, Gap.none, endsAfter,
      Gap.broken]

theorem read_key {cs rest : List Char} {line column index indent : Nat} (h : Uncut cs)
    (hrest : rest.head?.all isGap = true) :
    read false indent .none (layOut line column index (cs ++ ':' :: rest)) =
      some (cs, false,
        layOut line (column + cs.length) (index + cs.length) (':' :: rest)) := by
  have hcolon : isBlank ':' = false ∧ isBreak ':' = false := by decide
  rw [read_append h, Glyph.layOut_cons hcolon.2, read]
  simp [endsAt, hrest, hcolon, Gap.none, Gap.broken]

end Plain
end Markup
end RowBatch
