import RowBatch.Markup.Scalar.Block
import RowBatch.Proofs.Markup.Layout

/-!
A text on lines of its own is read back with every one of its line breaks: the header says how many
of those at the end are kept, and how far the lines are indented when the first one does not.
-/

namespace RowBatch
namespace Markup
namespace Block

open Glyph (layOut)
open Written (endsWith startsWith isSpace lines indentation)

namespace State

def broken : State → Bool
  | .line _ => false
  | .between _ _ _ => true

def pending : State → List Char
  | .line _ => []
  | .between first _ further => first ++ further

def addBreak (state : State) (b : Char) : State :=
  match state with
  | .line blank => .between [b] blank []
  | .between first blank further => .between first blank (further ++ [b])

@[simp] theorem broken_addBreak (state : State) (b : Char) : (state.addBreak b).broken = true := by
  cases state <;> rfl

@[simp] theorem pending_addBreak (state : State) (b : Char) :
    (state.addBreak b).pending = state.pending ++ [b] := by
  cases state <;> simp [addBreak, pending]

end State

section Lines

variable {chomping : Chomping} {state : State} {c : Char} {cs breaks rest more : List Char}
  {line column index : Nat}

theorem readLines_break (hc : isBreak c = true) :
    readLines false chomping 2 state (layOut line column index (c :: rest)) =
      readLines false chomping 2 (state.addBreak c) (layOut (line + 1) 0 (index + 1) rest) := by
  have hspace : c ≠ ' ' := ne_of_holds hc (by decide)
  have htab : c ≠ '\t' := ne_of_holds hc (by decide)
  cases state <;>
    simp [Glyph.layOut_break hc, readLines, hc, hspace, htab, State.addBreak]

theorem readLines_char (hc : isBreak c = false) (hstart : state.broken = true → column = 0) :
    ∃ blank column' index',
      readLines false chomping 2 state
          (layOut line column index ((if state.broken then indentation else []) ++ c :: rest)) =
        (readLines false chomping 2 (.line blank) (layOut line column' index' rest)).map
          fun (text, after) => (state.pending ++ c :: text, after) := by
  cases state with
  | line blank =>
    refine ⟨blank, column + 1, index + 1, ?_⟩
    simp [State.broken, Glyph.layOut_cons hc, readLines, hc, State.pending]
  | between first blank further =>
    obtain rfl := hstart rfl
    refine ⟨isBlank c, 3, index + 3, ?_⟩
    simp [State.broken, indentation, Glyph.layOut_cons, hc, readLines, State.pending, join]

/-- The lines of a text are read up to a character that is no break. -/
theorem readLines_body (hc : isBreak c = false) (hstart : state.broken = true → column = 0) :
    ∃ blank line' column' index',
      readLines false chomping 2 state
          (layOut line column index (lines state.broken (cs ++ [c]) ++ rest)) =
        (readLines false chomping 2 (.line blank) (layOut line' column' index' rest)).map
          fun (text, after) => (state.pending ++ (cs ++ [c]) ++ text, after) := by
  -- The writer and the reader change in step between being in a line and in front of one.
  induction cs generalizing state line column index with
  | nil =>
    obtain ⟨blank, column', index', hread⟩ := readLines_char hc hstart
    exact ⟨blank, line, column', index', by simpa [lines, hc] using hread⟩
  | cons d cs ih =>
    by_cases hd : isBreak d = true
    · obtain ⟨blank, line', column', index', hread⟩ :=
        @ih (state.addBreak d) (line + 1) 0 (index + 1) (fun _ => rfl)
      refine ⟨blank, line', column', index', ?_⟩
      rw [List.cons_append, lines, if_pos hd, List.cons_append, readLines_break hd,
        ← State.broken_addBreak state d, hread]
      simp
    · obtain ⟨blank, column₁, index₁, hchar⟩ := readLines_char (by simpa using hd) hstart
      obtain ⟨blank', line', column', index', hread⟩ :=
        @ih (.line blank) line column₁ index₁ (by simp [State.broken])
      refine ⟨blank', line', column', index', ?_⟩
      rw [State.broken] at hread
      rw [List.cons_append, lines, if_neg hd, List.append_assoc, List.cons_append, hchar, hread]
      simp [State.pending, Function.comp_def]

theorem readLines_between {first further : List Char} {blank : Bool}
    (hbreaks : ∀ b ∈ breaks, isBreak b = true) :
    ∃ line' index',
      readLines false chomping 2 (.between first blank further)
          (layOut line 0 index (breaks ++ more)) =
        readLines false chomping 2 (.between first blank (further ++ breaks))
          (layOut line' 0 index' more) := by
  induction breaks generalizing further line index with
  | nil => exact ⟨line, index, by simp⟩
  | cons b breaks ih =>
    obtain ⟨line', index', hread⟩ := @ih (line + 1) (index + 1) (further ++ [b])
      fun b' hb' => hbreaks b' (List.mem_cons_of_mem b hb')
    refine ⟨line', index', ?_⟩
    rw [List.cons_append, readLines_break (hbreaks b (by simp)), State.addBreak, hread,
      List.append_assoc, List.singleton_append]

theorem readLines_end {first further : List Char} {blank : Bool} (hmore : Fresh more) :
    readLines false chomping 2 (.between first blank further) (layOut line 0 index more) =
      some (chomping.tail first further, layOut line 0 index more) := by
  cases more with
  | nil => simp [Glyph.layOut, readLines]
  | cons c more =>
    obtain ⟨hblank, hbreak, -⟩ := hmore.head
    simp only [isBlank, Bool.or_eq_false_iff] at hblank
    simp [Glyph.layOut_cons hbreak, readLines, hbreak, hblank]

theorem readLines_trailing {b : Char} {blank : Bool} (hb : isBreak b = true)
    (hbreaks : ∀ b ∈ breaks, isBreak b = true) (hmore : Fresh more) :
    ∃ line' index',
      readLines false chomping 2 (.line blank) (layOut line column index (b :: breaks ++ more)) =
        some (chomping.tail [b] breaks, layOut line' 0 index' more) := by
  obtain ⟨line', index', hread⟩ := readLines_between hbreaks
  exact ⟨line', index', by
    rw [List.cons_append, readLines_break hb, State.addBreak, hread, readLines_end hmore,
      List.nil_append]⟩

end Lines

/-- A text is a body that is empty or ends in no break, and the breaks behind it. -/
theorem exists_body (cs : List Char) :
    ∃ body breaks, cs = body ++ breaks ∧ (∀ b ∈ breaks, isBreak b = true) ∧
      (body = [] ∨ ∃ inner c, body = inner ++ [c] ∧ isBreak c = false) := by
  induction cs with
  | nil => exact ⟨[], [], rfl, by simp, .inl rfl⟩
  | cons d cs ih =>
    obtain ⟨body, breaks, rfl, hbreaks, hbody⟩ := ih
    rcases hbody with rfl | ⟨inner, c, rfl, hc⟩
    · by_cases hd : isBreak d = true
      · exact ⟨[], d :: breaks, rfl, by simpa [hd] using hbreaks, .inl rfl⟩
      · exact ⟨[d], breaks, rfl, hbreaks, .inr ⟨[], d, rfl, by simpa using hd⟩⟩
    · exact ⟨d :: (inner ++ [c]), breaks, rfl, hbreaks, .inr ⟨d :: inner, c, rfl, hc⟩⟩

theorem lines_append {broken : Bool} {body breaks : List Char}
    (hbreaks : ∀ b ∈ breaks, isBreak b = true) :
    lines broken (body ++ breaks) = lines broken body ++ breaks := by
  induction body generalizing broken with
  | nil =>
    induction breaks generalizing broken with
    | nil => rfl
    | cons b breaks ih =>
      have hb : isBreak b = true := hbreaks b (by simp)
      simpa [lines, hb] using ih fun b' hb' => hbreaks b' (List.mem_cons_of_mem b hb')
  | cons c body ih => by_cases hc : isBreak c = true <;> simp [lines, hc, ih]

def Chomping.mark : Chomping → List Char
  | .strip => ['-']
  | .clip => []
  | .keep => ['+']

theorem chomping_keep {body breaks : List Char} (hbreaks : ∀ b ∈ breaks, isBreak b = true)
    (h : 2 ≤ breaks.length ∨ (body = [] ∧ breaks ≠ [])) :
    Written.chomping (body ++ breaks) = Chomping.mark .keep := by
  have hmem : ∀ b ∈ breaks.reverse, isBreak b = true := by simpa using hbreaks
  have hlength : breaks.reverse.length = breaks.length := List.length_reverse
  rw [Written.chomping, List.reverse_append]
  match hreverse : breaks.reverse with
  | [] =>
    have hnil : breaks = [] := by simpa using hreverse
    simp [hnil] at h
  | [b] =>
    rw [hreverse, List.length_singleton] at hlength
    obtain ⟨rfl, -⟩ := h.resolve_left (by omega)
    rw [hreverse] at hmem
    simp [hmem b (by simp), Chomping.mark]
  | b :: a :: before =>
    rw [hreverse] at hmem
    simp [hmem b (by simp), hmem a (by simp), Chomping.mark]

def lineEnd (cs : List Char) : List Char := if endsWith isBreak cs then [] else ['\n']

theorem lineEnd_append {body breaks : List Char} (hbreaks : ∀ b ∈ breaks, isBreak b = true)
    (hne : breaks ≠ []) : lineEnd (body ++ breaks) = [] := by
  have hlast : isBreak (breaks.getLast hne) = true := hbreaks _ (List.getLast_mem hne)
  simp [lineEnd, endsWith, List.getLast?_eq_some_getLast hne, hlast]

/-- The header of a text says how many of the breaks behind its last character are kept. -/
theorem exists_chomping {inner breaks more : List Char} {c : Char} (hc : isBreak c = false)
    (hbreaks : ∀ b ∈ breaks, isBreak b = true) (hmore : Fresh more) :
    ∃ chomping, Written.chomping (inner ++ [c] ++ breaks) = Chomping.mark chomping ∧
      ∀ blank line column index, ∃ line' index',
        readLines false chomping 2 (.line blank)
            (layOut line column index (breaks ++ (lineEnd (inner ++ [c] ++ breaks) ++ more))) =
          some (breaks, layOut line' 0 index' more) := by
  cases breaks with
  | nil =>
    have hend : lineEnd (inner ++ [c] ++ []) = ['\n'] := by simp [lineEnd, endsWith, hc]
    refine ⟨.strip, by simp [Written.chomping, hc, Chomping.mark], fun _ _ _ _ => ?_⟩
    rw [hend]
    exact readLines_trailing isBreak_lineFeed hbreaks hmore
  | cons b breaks =>
    have hb : isBreak b = true := hbreaks b (by simp)
    have hbehind : ∀ b ∈ breaks, isBreak b = true := fun b' hb' =>
      hbreaks b' (List.mem_cons_of_mem b hb')
    rw [lineEnd_append hbreaks (List.cons_ne_nil b breaks), List.nil_append]
    cases breaks with
    | nil =>
      refine ⟨.clip, by simp [Written.chomping, hb, hc, Chomping.mark], fun _ _ _ _ => ?_⟩
      exact readLines_trailing hb hbehind hmore
    | cons b' breaks =>
      refine ⟨.keep, chomping_keep hbreaks (.inl (by simp)), fun _ _ _ _ => ?_⟩
      exact readLines_trailing hb hbehind hmore

theorem readLines_lines {cs more : List Char} (hcs : cs ≠ []) (hmore : Fresh more) :
    ∃ chomping, Written.chomping cs = Chomping.mark chomping ∧ ∀ line index, ∃ line' index',
      readLines false chomping 2 (.between [] false [])
          (layOut line 0 index (lines true cs ++ (lineEnd cs ++ more))) =
        some (cs, layOut line' 0 index' more) := by
  obtain ⟨body, breaks, rfl, hbreaks, rfl | ⟨inner, c, rfl, hc⟩⟩ := exists_body cs
  · rw [List.nil_append] at hcs
    refine ⟨.keep, chomping_keep hbreaks (.inr ⟨rfl, hcs⟩), fun line index => ?_⟩
    obtain ⟨line', index', hread⟩ := readLines_between hbreaks
    refine ⟨line', index', ?_⟩
    rw [lines_append hbreaks, lineEnd_append hbreaks hcs, lines, List.nil_append, List.nil_append,
      hread, readLines_end hmore]
    rfl
  · obtain ⟨chomping, hmark, htail⟩ := @exists_chomping inner breaks more c hc hbreaks hmore
    refine ⟨chomping, hmark, fun line index => ?_⟩
    obtain ⟨blank, line₁, column₁, index₁, hbody⟩ :=
      @readLines_body chomping (.between [] false []) c inner
        (breaks ++ (lineEnd (inner ++ [c] ++ breaks) ++ more)) line 0 index hc (fun _ => rfl)
    obtain ⟨line', index', hread⟩ := htail blank line₁ column₁ index₁
    refine ⟨line', index', ?_⟩
    rw [State.broken] at hbody
    rw [lines_append hbreaks, List.append_assoc, hbody, hread]
    simp [State.pending]

theorem readHeader_marks (chomping : Chomping) (indented : Bool) (rest : List Char)
    (line column index : Nat) :
    ∃ index',
      readHeader (layOut line column index
          ((if indented then ['2'] else []) ++ chomping.mark ++ '\n' :: rest)) =
        some (chomping, if indented then some 2 else none, layOut (line + 1) 0 index' rest) := by
  cases indented <;> cases chomping <;> exact ⟨_, rfl⟩

theorem readLines_indentation {chomping : Chomping} {first further rest : List Char}
    {blank : Bool} {line index : Nat} :
    readLines false chomping 2 (.between first blank further)
        (layOut line 0 index (indentation ++ rest)) =
      readLines false chomping 2 (.between first blank further)
        (layOut line 2 (index + 2) rest) := by
  simp [indentation, Glyph.layOut_cons, readLines]

/-- The first line shows the indentation unless it starts with a blank or is empty. -/
theorem readLeading_indentation {c : Char} {rest : List Char} {line index : Nat}
    (hblank : isBlank c = false) (hbreak : isBreak c = false) :
    readLeading 1 [] (layOut line 0 index (indentation ++ c :: rest)) =
      some (2, [], layOut line 2 (index + 2) (c :: rest)) := by
  simp only [isBlank, Bool.or_eq_false_iff, beq_eq_false_iff_ne] at hblank
  simp [indentation, Glyph.layOut_cons, hbreak, readLeading, hblank]

/-- A text that is written on lines of its own is read back from behind its mark. -/
theorem read_literal {cs more : List Char} (h : Written.allowsLiteral cs = true) (hcs : cs ≠ [])
    (hmore : Fresh more) (line column index : Nat) :
    ∃ line' index',
      read false (some 0) (layOut line column index
          (Written.increment cs ++ Written.chomping cs ++ '\n' :: lines true cs ++
            (lineEnd cs ++ more))) =
        some (cs, layOut line' 0 index' more) := by
  obtain ⟨chomping, hmark, hlines⟩ := readLines_lines hcs hmore
  obtain ⟨index₁, hheader⟩ :=
    readHeader_marks chomping (startsWith (fun c => isSpace c || isBreak c) cs)
      (lines true cs ++ (lineEnd cs ++ more)) line column index
  obtain ⟨line', index', hread⟩ := hlines (line + 1) index₁
  refine ⟨line', index', ?_⟩
  rw [hmark, List.append_assoc, List.cons_append, Written.increment, read, hheader]
  by_cases hstart : startsWith (fun c => isSpace c || isBreak c) cs = true
  · simpa [hstart] using hread
  · obtain ⟨c, cs, rfl⟩ := List.exists_cons_of_ne_nil hcs
    obtain ⟨hspace, hbreak⟩ : c ≠ ' ' ∧ isBreak c = false := by
      simpa [startsWith, isSpace] using hstart
    have hprintable : Written.isPrintable c = true := by
      simp only [Written.allowsLiteral, Bool.and_eq_true, List.all_cons] at h
      exact h.1.1.1
    have hblank : isBlank c = false := Written.isBlank_of_isPrintable hprintable hspace
    have hfirst : lines true (c :: cs) = indentation ++ c :: lines false cs := by
      simp [lines, hbreak]
    rw [hfirst, List.append_assoc, readLines_indentation] at hread
    simpa [hstart, hfirst, readLeading_indentation hblank hbreak] using hread

end Block
end Markup
end RowBatch
