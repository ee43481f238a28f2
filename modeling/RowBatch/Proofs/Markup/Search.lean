import RowBatch.Proofs.Environment.Search
import RowBatch.Proofs.Markup.Written

/-!
The search for a reference in a text as it is written. Quotes, escapes, headers and indentation hold
no dollar sign and no brace, and they stand only where other such characters are, so that the search
comes to the same end as in the text itself.
-/

namespace RowBatch

open Environment (Progress isMark)

theorem any_isMark_of_isIdentifier {name : String} (h : IsIdentifier name) :
    name.toList.any isMark = false := by
  refine List.any_eq_false.mpr fun c hc => ?_
  have hchar : isIdentifierChar c = true := h.2 c hc
  have hdollar : c ≠ '$' := Markup.ne_of_holds hchar (by decide)
  have hopen : c ≠ '\x7b' := Markup.ne_of_holds hchar (by decide)
  have hclose : c ≠ '\x7d' := Markup.ne_of_holds hchar (by decide)
  simp [isMark, hdollar, hopen, hclose]

namespace Markup
namespace Written

theorem isBare_of_isMark {c : Char} (h : isMark c = true) : isBare c = true := by
  simp only [isMark, Bool.or_eq_true, beq_iff_eq] at h
  rcases h with (rfl | rfl) | rfl <;> decide

theorem isMark_upperDigit (d : Fin 16) : isMark (upperDigit d) = false := by
  revert d
  decide

theorem isMark_of_mem_numbered {c d : Char} (h : d ∈ numbered c) : isMark d = false := by
  have hcode (letter : Char) (hletter : isMark letter = false) (width n : Nat)
      (hd : d ∈ letter :: hex width n) : isMark d = false := by
    obtain ⟨digits, hdigits, -⟩ := hex_eq width n
    rw [hdigits] at hd
    rcases List.mem_cons.mp hd with rfl | hd
    · exact hletter
    · obtain ⟨digit, -, rfl⟩ := List.mem_map.mp hd
      exact isMark_upperDigit digit
  unfold numbered at h
  split at h
  · exact hcode 'x' (by decide) _ _ h
  · split at h
    · exact hcode 'u' (by decide) _ _ h
    · exact hcode 'U' (by decide) _ _ h

theorem isMark_of_mem_escaped {c d : Char} (hc : isMark c = false) (h : d ∈ escaped c) :
    isMark d = false := by
  unfold escaped at h
  split at h
  · obtain rfl := List.mem_singleton.mp h
    exact hc
  · rcases List.mem_cons.mp h with rfl | h
    · decide
    · split at h
      case h_15 => exact isMark_of_mem_numbered h
      all_goals
        obtain rfl := List.mem_singleton.mp h
        decide

theorem escaped_ne_nil (c : Char) : escaped c ≠ [] := by
  unfold escaped
  split <;> exact List.cons_ne_nil _ _

theorem run_escaped (p : Progress) (c : Char) : p.run (escaped c) = p.step c := by
  cases hc : isMark c with
  | true =>
    have hbare := isBare_of_isMark hc
    unfold isBare at hbare
    unfold escaped
    rw [if_pos hbare]
    rfl
  | false =>
    have hescape : (escaped c).any isMark = false :=
      List.any_eq_false.mpr fun d hd => by simp [isMark_of_mem_escaped hc hd]
    rw [Progress.run_of_unmarked (escaped_ne_nil c) hescape, Progress.step_of_not_mark hc]

theorem run_flatMap_escaped (p : Progress) (cs : List Char) :
    p.run (cs.flatMap escaped) = p.run cs := by
  induction cs generalizing p with
  | nil => rfl
  | cons c cs ih => rw [List.flatMap_cons, Progress.run_append, run_escaped, ih, Progress.run_cons]

theorem isMark_of_isBreak {c : Char} (hc : isBreak c = true) : isMark c = false := by
  rcases isBreak_iff.mp hc with rfl | rfl | rfl <;> decide

section Lines

variable {p : Progress} {cs : List Char} {broken : Bool}

theorem settled_break {c : Char} (p : Progress) (hc : isBreak c = true) : (p.step c).Settled := by
  rw [Progress.step_of_not_mark (isMark_of_isBreak hc)]
  exact p.settled_step

theorem run_indentation (hp : broken = true → p.Settled) :
    p.run (if broken then indentation else []) = p := by
  cases broken with
  | false => rfl
  | true => exact (hp rfl).run_eq (by decide)

theorem run_single (cs : List Char) (hp : broken = true → p.Settled) :
    p.run (single broken cs) = p.run cs := by
  induction cs generalizing p broken with
  | nil => exact run_indentation hp
  | cons c cs ih =>
    by_cases hc : isBreak c = true
    · -- Behind a break the search is settled, and what indents the next line changes nothing.
      rw [single, if_pos hc, Progress.run_cons, Progress.run_cons]
      exact ih fun _ => settled_break p hc
    · have hchar : p.run (if c == '\x27' then [c, c] else [c]) = p.step c := by
        split
        · rename_i hquote
          obtain rfl := eq_of_beq hquote
          have hmark : isMark '\x27' = false := by decide
          rw [Progress.run_of_unmarked (List.cons_ne_nil _ _) (by decide),
            Progress.step_of_not_mark hmark]
        · rfl
      rw [single, if_neg hc, Progress.run_append, Progress.run_append, run_indentation hp, hchar,
        Progress.run_cons]
      exact ih (absurd · Bool.false_ne_true)

theorem run_lines (cs : List Char) (hp : broken = true → p.Settled) :
    p.run (lines broken cs) = p.run cs := by
  induction cs generalizing p broken with
  | nil => rfl
  | cons c cs ih =>
    by_cases hc : isBreak c = true
    · rw [lines, if_pos hc, Progress.run_cons, Progress.run_cons]
      exact ih fun _ => settled_break p hc
    · rw [lines, if_neg hc, Progress.run_append, run_indentation hp, Progress.run_cons,
        Progress.run_cons]
      exact ih (absurd · Bool.false_ne_true)

theorem run_literal (cs : List Char) (hp : p.Settled) : p.run (literal cs) = p.run cs := by
  have hincrement : (increment cs).any isMark = false := by
    unfold increment
    split <;> decide
  have hchomping : (chomping cs).any isMark = false := by
    unfold chomping
    repeat' split
    all_goals decide
  have hheader : ('|' :: (increment cs ++ (chomping cs ++ ['\n']))).any isMark = false := by
    rw [List.any_cons, List.any_append, List.any_append, hincrement, hchomping]
    decide
  have hliteral : literal cs =
      '|' :: (increment cs ++ (chomping cs ++ ['\n'])) ++ lines true cs := by
    simp [literal]
  rw [hliteral, Progress.run_append, hp.run_eq hheader]
  exact run_lines cs fun _ => hp

/-- A text is searched as if it stood on a line as it is. -/
theorem WrittenAs.run_eq {style : ScalarStyle} {written : List Char}
    (h : WrittenAs cs style written) (hp : p.Settled) :
    p.run written = (p.run cs).step '\n' := by
  have hquotes (quote : Char) (hquote : isMark quote = false) (inside : List Char)
      (hinside : p.run inside = p.run cs) :
      p.run (quote :: inside ++ [quote, '\n']) = (p.run cs).step '\n' := by
    have hopen : p.step quote = p := (Progress.step_of_not_mark hquote p).trans hp
    have hclose : [quote, '\n'].any isMark = false := by
      simpa [hquote] using isMark_of_isBreak isBreak_lineFeed
    rw [Progress.run_append, Progress.run_cons p, hopen, hinside,
      Progress.run_of_unmarked (List.cons_ne_nil _ _) hclose]
  cases h with
  | plain _ _ => exact Progress.run_append p cs ['\n']
  | singleQuoted _ _ =>
    exact hquotes '\x27' (by decide) _ (run_single cs (absurd · Bool.false_ne_true))
  | doubleQuoted => exact hquotes '\x22' (by decide) _ (run_flatMap_escaped p cs)
  | literal _ _ =>
    rw [Progress.run_append, run_literal cs hp]
    split
    · -- The last break of the text is the one at the end of the line.
      rename_i hlast
      obtain ⟨c, hc, hbreak⟩ : ∃ c, cs.getLast? = some c ∧ isBreak c = true := by
        simpa [endsWith, Option.any_eq_true] using hlast
      obtain ⟨before, rfl⟩ := List.getLast?_eq_some_iff.mp hc
      rw [Progress.run_append]
      exact (settled_break (p.run before) hbreak).symm
    · rfl

end Lines

end Written
end Markup

end RowBatch
