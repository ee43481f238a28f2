import RowBatch.Markup.Token.Lexer
import RowBatch.Proofs.Markup.Literal
import RowBatch.Proofs.Markup.Plain
import RowBatch.Proofs.Markup.Quoted

/-!
The tokens of written lines: keys with their colons, marks of items, and scalars. What follows on
further lines does not change them.
-/

namespace RowBatch
namespace Markup
namespace Lexer

open Glyph (layOut)
open Written (WrittenAs)

section Run

variable {s t u v : Lexer} {g : Glyph} {rest : List Glyph}

theorem length_skipGap (inFlow comment keyAllowed : Bool) (glyphs : List Glyph) :
    (skipGap inFlow comment keyAllowed glyphs).2.length ≤ glyphs.length := by
  fun_induction skipGap <;> simp_all <;> omega

theorem rest_dropStale (h : s.dropStale = some t) : t.rest = s.rest := by
  simp only [dropStale, Option.bind_eq_bind, Option.bind_eq_some_iff] at h
  obtain ⟨candidate, _, outer, _, h⟩ := h
  cases h
  rfl

/-- The reader goes to the next token, at which it is in the state `u`. -/
def Reaches (s u : Lexer) : Prop := ∃ t, s.dropStale = some t ∧ t.advance = some u

theorem Reaches.length_le (h : s.Reaches u) : u.rest.length ≤ s.rest.length := by
  obtain ⟨t, hdrop, hadvance⟩ := h
  rw [← rest_dropStale hdrop, rest_dropStale hadvance]
  exact length_skipGap t.inFlow false t.keyAllowed t.rest

/-- A step of the reader: it goes to a token and reads it. -/
theorem run_of_reaches (h : s.Reaches u) (hrest : u.rest = g :: rest)
    (hread : u.readToken g rest = some v) (hlength : v.rest.length < u.rest.length) :
    s.run = v.run := by
  have hless := Nat.lt_of_lt_of_le hlength h.length_le
  obtain ⟨t, hdrop, hadvance⟩ := h
  rw [run, hdrop]
  simp [hadvance, hrest, hread, hless]

theorem run_of_reaches_end (h : s.Reaches u) (hrest : u.rest = []) : s.run = u.finish := by
  obtain ⟨t, hdrop, hadvance⟩ := h
  rw [run, hdrop]
  simp [hadvance, hrest]

end Run

section Gap

variable {cs more : List Char} {read : List Token} {blocks : List Nat} {keyAllowed : Bool}
  {candidate : Option KeyCandidate} {line column index : Nat}

theorem skipGap_of_head {c : Char} (hblank : isBlank c = false) (hbreak : isBreak c = false)
    (hhash : c ≠ '#') (hmark : c ≠ byteOrderMark) (inFlow : Bool) :
    skipGap inFlow false keyAllowed (layOut line column index (c :: cs)) =
      (keyAllowed, layOut line column index (c :: cs)) := by
  simp only [isBlank, Bool.or_eq_false_iff, beq_eq_false_iff_ne] at hblank
  simp [Glyph.layOut_cons hbreak, skipGap, hbreak, hblank, hhash, hmark]

theorem skipGap_of_fresh (hmore : Fresh more) :
    skipGap false false keyAllowed (layOut line column index more) =
      (keyAllowed, layOut line column index more) := by
  cases more with
  | nil => rfl
  | cons c more =>
    obtain ⟨hblank, hbreak, hhash, hmark⟩ := hmore.head
    exact skipGap_of_head hblank hbreak hhash hmark false

theorem skipGap_break (hmore : Fresh more) :
    skipGap false false keyAllowed (layOut line column index ('\n' :: more)) =
      (true, layOut (line + 1) 0 (index + 1) more) := by
  rw [Glyph.layOut_break isBreak_lineFeed, skipGap]
  simp [skipGap_of_fresh hmore]

theorem dropStale_eq_self {s : Lexer} (houter : s.outer = [])
    (h : ∀ k ∈ s.candidate, k.isStale s.rest = false) : s.dropStale = some s := by
  obtain ⟨glyphs, read, blocks, keyAllowed, candidate, outer⟩ := s
  obtain rfl : outer = [] := houter
  cases candidate with
  | none => rfl
  | some k => simp [dropStale, KeyCandidate.refresh, h k rfl]

theorem reaches_self {glyphs : List Glyph}
    (hskip : skipGap false false keyAllowed glyphs = (keyAllowed, glyphs))
    (h : ∀ k ∈ candidate, k.isStale glyphs = false) :
    Reaches ⟨glyphs, read, blocks, keyAllowed, candidate, []⟩
      ⟨glyphs, read, blocks, keyAllowed, candidate, []⟩ :=
  ⟨_, dropStale_eq_self rfl h, by simpa [advance, inFlow, hskip] using dropStale_eq_self rfl h⟩

theorem reaches_of_skipGap {glyphs glyphs' : List Glyph} {keyAllowed' : Bool}
    (h : skipGap false false keyAllowed glyphs = (keyAllowed', glyphs')) :
    Reaches ⟨glyphs, read, blocks, keyAllowed, none, []⟩
      ⟨glyphs', read, blocks, keyAllowed', none, []⟩ :=
  ⟨_, rfl, by simp [advance, inFlow, h, dropStale_eq_self]⟩

theorem exists_dropStale (s : Lexer) (houter : s.outer = [])
    (h : ∀ k ∈ s.candidate, k.required = false) :
    ∃ candidate, s.dropStale = some { s with candidate } ∧
      ∀ k ∈ candidate, k ∈ s.candidate ∧ k.isStale s.rest = false := by
  obtain ⟨glyphs, read, blocks, keyAllowed, candidate, outer⟩ := s
  obtain rfl : outer = [] := houter
  cases candidate with
  | none => exact ⟨none, rfl, by simp⟩
  | some k =>
    have hrequired : k.required = false := h k rfl
    by_cases hstale : k.isStale glyphs = true
    · exact ⟨none, by simp [dropStale, KeyCandidate.refresh, hstale, hrequired], by simp⟩
    · exact ⟨some k, by simp [dropStale, KeyCandidate.refresh, hstale], by simpa using hstale⟩

theorem isStale_layOut {k : KeyCandidate} (h : k.start.line < line) :
    k.isStale (layOut line column index cs) = true := by
  cases cs <;> simp [layOut, KeyCandidate.isStale, h]

/-- The reader is about to read from the start of a line on. -/
def AtLine (s : Lexer) (cs : List Char) (read : List Token) (blocks : List Nat) : Prop :=
  ∃ line index, s.Reaches ⟨layOut line 0 index cs, read, blocks, true, none, []⟩

theorem atLine_of_skipGap {glyphs : List Glyph}
    (h : skipGap false false keyAllowed glyphs = (true, layOut line 0 index more))
    (hcandidate : ∀ k ∈ candidate, k.required = false ∧ k.start.line < line) :
    AtLine ⟨glyphs, read, blocks, keyAllowed, candidate, []⟩ more read blocks := by
  obtain ⟨candidate₁, hfirst, hsub₁⟩ :=
    exists_dropStale ⟨glyphs, read, blocks, keyAllowed, candidate, []⟩ rfl
      fun k hk => (hcandidate k hk).1
  obtain ⟨candidate₂, hsecond, hsub₂⟩ :=
    exists_dropStale ⟨layOut line 0 index more, read, blocks, true, candidate₁, []⟩ rfl
      fun k hk => (hcandidate k (hsub₁ k hk).1).1
  -- What the first pass kept was offered on an earlier line, so that the second one drops it.
  obtain rfl : candidate₂ = none := by
    cases candidate₂ with
    | none => rfl
    | some k =>
      obtain ⟨hk, hstale⟩ := hsub₂ k rfl
      rw [isStale_layOut (hcandidate k (hsub₁ k hk).1).2] at hstale
      exact absurd hstale (by simp)
  exact ⟨line, index, _, hfirst, by simpa [advance, inFlow, h] using hsecond⟩

end Gap

/-- The tokens that are read from the start of a line on. -/
def Gives (blocks : List Nat) (cs : List Char) (tokens : List Token) : Prop :=
  ∀ s read, AtLine s cs read blocks → s.run = read.reverse ++ tokens

/-- The tokens that are read behind the start of a line of the outermost block. -/
def GivesInside (keyAllowed : Bool) (cs : List Char) (tokens : List Token) : Prop :=
  ∀ line column index read, column ≠ 0 →
    run ⟨layOut line column index cs, read, [0], keyAllowed, none, []⟩ = read.reverse ++ tokens

theorem gives_nil : Gives [0] [] [.blockEnd, .streamEnd] := by
  rintro s read ⟨line, index, hreaches⟩
  rw [run_of_reaches_end hreaches rfl]
  simp [finish, closeBlocks, inFlow, emit]

section Steps

variable {cs more rest : List Char} {tokens : List Token} {blocks : List Nat} {read : List Token}
  {keyAllowed : Bool} {line column index : Nat} {glyphs : List Glyph} {s v : Lexer}

theorem closeBlocks_outermost (hblocks : s.blocks = [] ∨ s.blocks = [0]) (column : Nat) :
    s.closeBlocks (fun c => decide (column < c)) = s := by
  obtain ⟨rest, read, blocks, keyAllowed, candidate, outer⟩ := s
  rcases hblocks with rfl | rfl <;> simp [closeBlocks]

theorem readToken_plain {g : Glyph} (hblocks : s.blocks = [] ∨ s.blocks = [0])
    (hmark : Written.isStartMark g.char = false) (htab : g.char ≠ '\t')
    (hdocument : Glyph.atDocumentMark (g :: glyphs) = false)
    (hgap : g.char = '-' ∨ g.char = '?' ∨ g.char = ':' → Glyph.atGap glyphs = false)
    (houter : s.outer = []) : s.readToken g glyphs = s.readPlain g glyphs := by
  have hne (c : Char) (hc : Written.isStartMark c = true) : g.char ≠ c := by
    rintro rfl
    simp [hmark] at hc
  have hpercent : (g.char == '%') = false := by
    simpa using hne '%' (by simp [Written.isStartMark])
  have hflow : s.inFlow = false := by simp [inFlow, houter]
  unfold readToken
  rw [closeBlocks_outermost hblocks]
  simp only [hdocument, hpercent, hflow, Bool.false_and, Bool.false_or, Bool.false_eq_true,
    if_false]
  -- A mark of a block is a plain character where no gap follows; all the other cases are for marks.
  split
  case h_6 h => rw [if_neg (by simp [hgap (.inl h)])]
  case h_7 h => rw [if_neg (by simp [hgap (.inr (.inl h))])]
  case h_8 h => rw [if_neg (by simp [hgap (.inr (.inr h))])]
  case h_16 h => exact absurd h htab
  case h_21 => rfl
  all_goals
    rename_i h
    exact absurd h (hne _ (by simp [Written.isStartMark, isFlowMark]))

def offered (keyAllowed : Bool) (read : List Token) (blocks : List Nat) (g : Glyph) :
    Option KeyCandidate :=
  if keyAllowed then some ⟨read.length, blocks.head? == some g.column, g⟩ else none

theorem offerKey_eq (g : Glyph) :
    offerKey ⟨glyphs, read, blocks, keyAllowed, none, []⟩ g =
      some ⟨glyphs, read, blocks, keyAllowed, offered keyAllowed read blocks g, []⟩ := by
  cases keyAllowed <;> simp [offerKey, closeKey, offered, inFlow]

theorem of_mem_offered {g : Glyph} {k : KeyCandidate} (hcolumn : g.column ≠ 0)
    (hk : k ∈ offered keyAllowed read [0] g) : k.required = false ∧ k.start.line = g.line := by
  unfold offered at hk
  split at hk
  · obtain rfl := Option.some.inj hk
    exact ⟨by simpa using hcolumn.symm, rfl⟩
  · simp at hk

theorem run_of_offered {g : Glyph} {t : Token} {keyAllowed' : Bool} (hcolumn : g.column ≠ 0)
    (hline : g.line < line) (h : Gives [0] more tokens)
    (hskip : skipGap false false keyAllowed' glyphs = (true, layOut line 0 index more)) :
    run ⟨glyphs, t :: read, [0], keyAllowed', offered keyAllowed read [0] g, []⟩ =
      read.reverse ++ t :: tokens := by
  have hcandidate : ∀ k ∈ offered keyAllowed read [0] g,
      k.required = false ∧ k.start.line < line := fun k hk => by
    obtain ⟨hrequired, hstart⟩ := of_mem_offered hcolumn hk
    exact ⟨hrequired, hstart ▸ hline⟩
  rw [h _ _ (atLine_of_skipGap hskip hcandidate)]
  simp

def opening (blocks : List Nat) : List Token := if blocks = [] then [.blockMappingStart] else []

theorem readValue_eq {colon : Glyph} {name : List Char} {after : List Glyph} {c : Char}
    {start : Nat} (hblocks : blocks = [] ∨ blocks = [0]) :
    readValue ⟨glyphs, .scalar name .plain :: read, blocks, false,
        offered true read blocks ⟨c, line, 0, start⟩, []⟩ colon after =
      some ⟨after, .value :: .scalar name .plain :: .key :: (opening blocks ++ read), [0], false,
        none, []⟩ := by
  have htwo : read.length + 1 + 1 - read.length = 2 := by omega
  rcases hblocks with rfl | rfl <;>
    simp [readValue, offered, insert, openBlock, inFlow, emit, opening, htwo]

theorem readToken_of_allowsPlain {c : Char} {text : List Char} {broken : Bool}
    (h : Written.allowsPlain (c :: cs) = true) (hblocks : blocks = [] ∨ blocks = [0])
    (hdocument : Glyph.atDocumentMark (layOut line column index (c :: cs ++ rest)) = false)
    (hread : Plain.read false ((blocks.head?.map (· + 1)).getD 0) .none
      (layOut line column index (c :: cs ++ rest)) = some (text, broken, glyphs)) :
    readToken ⟨layOut line column index (c :: cs ++ rest), read, blocks, keyAllowed, none, []⟩
        ⟨c, line, column, index⟩ (layOut line (column + 1) (index + 1) (cs ++ rest)) =
      some ⟨glyphs, .scalar text .plain :: read, blocks, broken,
        offered keyAllowed read blocks ⟨c, line, column, index⟩, []⟩ := by
  obtain ⟨hprintable, hbreak, -, hmark, hgap⟩ := Written.start_of_allowsPlain h
  have hgap : c = '-' ∨ c = '?' ∨ c = ':' →
      Glyph.atGap (layOut line (column + 1) (index + 1) (cs ++ rest)) = false := by
    rw [← or_assoc]
    rintro (hc | rfl)
    · have hcs := hgap hc
      cases cs with
      | nil => simp at hcs
      | cons d cs => simpa using hcs
    · exact (Plain.uncut_of_allowsPlain h).atGap
  rw [List.cons_append, Glyph.layOut_cons hbreak] at hdocument hread ⊢
  rw [readToken_plain hblocks hmark (ne_of_holds hprintable (by decide)) hdocument hgap rfl]
  simp [readPlain, offerKey_eq, inFlow, hread, emit]

theorem run_name {name : List Char} {c : Char}
    (hname : ∀ d ∈ c :: name, isIdentifierChar d = true) (hblocks : blocks = [] ∨ blocks = [0])
    (hrest : rest.head?.all isGap = true)
    (hreaches : s.Reaches
      ⟨layOut line 0 index (c :: name ++ ':' :: rest), read, blocks, true, none, []⟩) :
    s.run = run
      ⟨layOut line (0 + (c :: name).length) (index + (c :: name).length) (':' :: rest),
        .scalar (c :: name) .plain :: read, blocks, false,
        offered true read blocks ⟨c, line, 0, index⟩, []⟩ := by
  have hplain := Written.allowsPlain_of_identifier hname
  have hc : isIdentifierChar c = true := hname c (by simp)
  have hlay : layOut line 0 index (c :: name ++ ':' :: rest) =
      ⟨c, line, 0, index⟩ :: layOut line (0 + 1) (index + 1) (name ++ ':' :: rest) :=
    Glyph.layOut_cons (gap_of_isNameChar (Written.isNameChar_of_identifier hc)).2.1
  have hdocument :
      Glyph.atDocumentMark (layOut line 0 index (c :: name ++ ':' :: rest)) = false := by
    rw [hlay]
    exact Glyph.atDocumentMark_of_char (ne_of_holds hc (by decide)) (ne_of_holds hc (by decide))
  exact run_of_reaches hreaches hlay
    (readToken_of_allowsPlain hplain hblocks hdocument
      (Plain.read_key (Plain.uncut_of_allowsPlain hplain) hrest))
    (by simp only [Glyph.length_layOut, List.length_append, List.length_cons]; omega)

theorem run_colon {name : List Char} {c : Char} {start : Nat} (hindex : index ≤ start + 1024)
    (hblocks : blocks = [] ∨ blocks = [0]) (hrest : rest.head?.all isGap = true) :
    run ⟨layOut line column index (':' :: rest), .scalar name .plain :: read, blocks, false,
        offered true read blocks ⟨c, line, 0, start⟩, []⟩ =
      run ⟨layOut line (column + 1) (index + 1) rest,
        .value :: .scalar name .plain :: .key :: (opening blocks ++ read), [0], false, none,
        []⟩ := by
  have hlay : layOut line column index (':' :: rest) =
      ⟨':', line, column, index⟩ :: layOut line (column + 1) (index + 1) rest :=
    Glyph.layOut_cons (by decide)
  have hskip : skipGap false false false (layOut line column index (':' :: rest)) =
      (false, layOut line column index (':' :: rest)) :=
    skipGap_of_head (by decide) (by decide) (by decide) (by decide) false
  have hstale : ∀ k ∈ offered true read blocks ⟨c, line, 0, start⟩,
      k.isStale (layOut line column index (':' :: rest)) = false := by
    intro k hk
    obtain rfl := Option.some.inj hk
    simp [hlay, KeyCandidate.isStale, hindex]
  refine run_of_reaches (reaches_self hskip hstale) hlay ?_ (by simp)
  unfold readToken
  rw [closeBlocks_outermost hblocks]
  simp [Glyph.atDocumentMark_of_char, hrest, readValue_eq hblocks]

theorem gives_key {name : List Char} (hname : ∀ c ∈ name, isIdentifierChar c = true)
    (hne : name ≠ []) (hshort : name.length ≤ 1024) (hblocks : blocks = [] ∨ blocks = [0])
    (hrest : rest.head?.all isGap = true) (h : GivesInside false rest tokens) :
    Gives blocks (name ++ ':' :: rest)
      (opening blocks ++ .key :: .scalar name .plain :: .value :: tokens) := by
  rintro s read ⟨line, index, hreaches⟩
  obtain ⟨c, name, rfl⟩ := List.exists_cons_of_ne_nil hne
  rw [run_name hname hblocks hrest hreaches,
    run_colon (Nat.add_le_add_left hshort index) hblocks hrest, h _ _ _ _ (by simp)]
  rcases hblocks with rfl | rfl <;> simp [opening]

theorem gives_item (h : GivesInside true (' ' :: rest) tokens) :
    Gives [0] ('-' :: ' ' :: rest) (.blockEntry :: tokens) := by
  rintro s read ⟨line, index, hreaches⟩
  have hlay : layOut line 0 index ('-' :: ' ' :: rest) =
      ⟨'-', line, 0, index⟩ :: layOut line 1 (index + 1) (' ' :: rest) :=
    Glyph.layOut_cons (by decide)
  have hdocument : Glyph.atDocumentMark (layOut line 0 index ('-' :: ' ' :: rest)) = false := by
    rw [hlay, Glyph.layOut_cons isBreak_space]
    exact Glyph.atDocumentMark_of_next (show ' ' ≠ '-' by decide)
  have hread : readToken ⟨layOut line 0 index ('-' :: ' ' :: rest), read, [0], true, none, []⟩
        ⟨'-', line, 0, index⟩ (layOut line 1 (index + 1) (' ' :: rest)) =
      some ⟨layOut line 1 (index + 1) (' ' :: rest), .blockEntry :: read, [0], true, none, []⟩ := by
    rw [hlay] at hdocument
    unfold readToken
    rw [closeBlocks_outermost (.inr rfl)]
    simp [hdocument, readBlockMark, openBlock, closeKey, inFlow, emit, isGap]
  rw [run_of_reaches hreaches hlay hread (by simp), h line 1 (index + 1) _ (by simp)]
  simp

theorem givesInside_break (hmore : Fresh more) (h : Gives [0] more tokens) :
    GivesInside keyAllowed ('\n' :: more) tokens :=
  fun _ _ _ _ _ => h _ _ (atLine_of_skipGap (skipGap_break hmore) (by simp))

theorem givesInside_space {c : Char} (hblank : isBlank c = false) (hbreak : isBreak c = false)
    (hhash : c ≠ '#') (hmark : c ≠ byteOrderMark)
    (h : ∀ line column index read, column ≠ 0 → ∃ v : Lexer,
      readToken ⟨layOut line column index (c :: cs), read, [0], keyAllowed, none, []⟩
          ⟨c, line, column, index⟩ (layOut line (column + 1) (index + 1) cs) = some v ∧
        v.rest.length ≤ cs.length ∧ v.run = read.reverse ++ tokens) :
    GivesInside keyAllowed (' ' :: c :: cs) tokens := by
  intro line column index read hcolumn
  obtain ⟨v, hread, hlength, hrun⟩ := h line (column + 1) (index + 1) read (by omega)
  have hskip : skipGap false false keyAllowed (layOut line column index (' ' :: c :: cs)) =
      (keyAllowed, layOut line (column + 1) (index + 1) (c :: cs)) := by
    rw [Glyph.layOut_cons isBreak_space, skipGap]
    simp [skipGap_of_head hblank hbreak hhash hmark]
  rw [← hrun]
  exact run_of_reaches (reaches_of_skipGap hskip) (Glyph.layOut_cons hbreak) hread
    (by simpa using Nat.lt_succ_of_le hlength)

theorem givesInside_plain (hcs : cs ≠ []) (hplain : Written.allowsPlain cs = true)
    (hmore : Fresh more) (h : Gives [0] more tokens) :
    GivesInside keyAllowed (' ' :: (cs ++ '\n' :: more)) (.scalar cs .plain :: tokens) := by
  obtain ⟨c, cs, rfl⟩ := List.exists_cons_of_ne_nil hcs
  obtain ⟨hprintable, hbreak, hspace, hmark, -⟩ := Written.start_of_allowsPlain hplain
  have hblank : isBlank c = false := Written.isBlank_of_isPrintable hprintable hspace
  have hhash : c ≠ '#' := by
    rintro rfl
    simp [Written.isStartMark] at hmark
  refine givesInside_space hblank hbreak hhash (ne_of_holds hprintable (by decide)) ?_
  intro line column index read hcolumn
  have hdocument : Glyph.atDocumentMark
      (layOut line column index (c :: cs ++ '\n' :: more)) = false := by
    rw [List.cons_append, Glyph.layOut_cons hbreak]
    exact Glyph.atDocumentMark_of_column hcolumn
  have hlength : more.length ≤ (cs ++ '\n' :: more).length := by
    rw [List.length_append, List.length_cons]
    omega
  exact ⟨_, readToken_of_allowsPlain hplain (.inr rfl) hdocument
    (Plain.read_line (Plain.uncut_of_allowsPlain hplain) hmore),
    Nat.le_trans (Nat.le_of_eq Glyph.length_layOut) hlength,
    run_of_offered hcolumn (Nat.lt_succ_self line) h (skipGap_of_fresh hmore)⟩

/-- A scalar in quotes, if what stands between them is read back. -/
theorem givesInside_quoted {mark : Char} {style : ScalarStyle} (hblank : isBlank mark = false)
    (hbreak : isBreak mark = false) (hhash : mark ≠ '#') (hmark : mark ≠ byteOrderMark)
    (hlength : more.length < rest.length)
    (hread : ∀ line column index read, column ≠ 0 → ∃ line' column' index', line ≤ line' ∧
      readToken ⟨layOut line column index (mark :: rest), read, [0], keyAllowed, none, []⟩
          ⟨mark, line, column, index⟩ (layOut line (column + 1) (index + 1) rest) =
        readQuoted ⟨layOut line column index (mark :: rest), read, [0], keyAllowed, none, []⟩
          ⟨mark, line, column, index⟩ (some (cs, layOut line' column' index' ('\n' :: more))) style)
    (hmore : Fresh more) (h : Gives [0] more tokens) :
    GivesInside keyAllowed (' ' :: mark :: rest) (.scalar cs style :: tokens) := by
  refine givesInside_space hblank hbreak hhash hmark ?_
  intro line column index read hcolumn
  obtain ⟨line', column', index', hline, hread⟩ := hread line column index read hcolumn
  refine ⟨⟨layOut line' column' index' ('\n' :: more), .scalar cs style :: read, [0], false,
    offered keyAllowed read [0] ⟨mark, line, column, index⟩, []⟩, ?_, ?_,
    run_of_offered hcolumn (Nat.lt_succ_of_le hline) h (skipGap_break hmore)⟩
  · rw [hread]
    simp [readQuoted, readProperty, offerKey_eq, emit]
  · simpa using Nat.succ_le_of_lt hlength

theorem givesInside_singleQuoted (hsingle : Written.allowsSingle cs = true) (hfeed : '\n' ∉ cs)
    (hmore : Fresh more) (h : Gives [0] more tokens) :
    GivesInside keyAllowed (' ' :: '\x27' :: (Written.single false cs ++ '\x27' :: '\n' :: more))
      (.scalar cs .singleQuoted :: tokens) := by
  refine givesInside_quoted (by decide) (by decide) (by decide) (by decide)
    (by simp only [List.length_append, List.length_cons]; omega) ?_ hmore h
  intro line column index read hcolumn
  obtain ⟨line', column', index', hline, hread⟩ :=
    Quoted.readSingle_text hsingle hfeed more line (index + 1) (Nat.succ_ne_zero column)
  refine ⟨line', column', index', hline, ?_⟩
  unfold readToken
  rw [closeBlocks_outermost (.inr rfl)]
  simp [Glyph.atDocumentMark_of_column, hcolumn, hread]

theorem givesInside_doubleQuoted (hmore : Fresh more) (h : Gives [0] more tokens) :
    GivesInside keyAllowed
      (' ' :: '\x22' :: (cs.flatMap Written.escaped ++ '\x22' :: '\n' :: more))
      (.scalar cs .doubleQuoted :: tokens) := by
  refine givesInside_quoted (by decide) (by decide) (by decide) (by decide)
    (by simp only [List.length_append, List.length_cons]; omega) ?_ hmore h
  intro line column index read hcolumn
  obtain ⟨column', index', hread⟩ :=
    Quoted.readDouble_text cs ('\n' :: more) line (index + 1) (Nat.succ_ne_zero column)
  refine ⟨line, column', index', Nat.le_refl line, ?_⟩
  unfold readToken
  rw [closeBlocks_outermost (.inr rfl)]
  simp [Glyph.atDocumentMark_of_column, hcolumn, hread]

theorem givesInside_literal (hliteral : Written.allowsLiteral cs = true) (hcs : cs ≠ [])
    (hmore : Fresh more) (h : Gives [0] more tokens) :
    GivesInside keyAllowed (' ' :: (Written.literal cs ++ (Block.lineEnd cs ++ more)))
      (.scalar cs .literal :: tokens) := by
  have hread := Block.read_literal hliteral hcs hmore
  have hmark : Written.literal cs ++ (Block.lineEnd cs ++ more) =
      '|' :: (Written.increment cs ++ Written.chomping cs ++ '\n' :: Written.lines true cs ++
        (Block.lineEnd cs ++ more)) := by
    simp [Written.literal]
  rw [hmark]
  generalize hrest : Written.increment cs ++ Written.chomping cs ++ '\n' :: Written.lines true cs ++
    (Block.lineEnd cs ++ more) = rest at hread ⊢
  have hlength : more.length ≤ rest.length := by
    rw [← hrest]
    simp only [List.length_append, List.length_cons]
    omega
  refine givesInside_space (by decide) (by decide) (by decide) (by decide) ?_
  intro line column index read hcolumn
  obtain ⟨line', index', hread⟩ := hread line (column + 1) (index + 1)
  refine ⟨⟨layOut line' 0 index' more, .scalar cs .literal :: read, [0], true, none, []⟩,
    ?_, ?_, ?_⟩
  · have hstyle : (ScalarStyle.literal == .folded) = false := by decide
    unfold readToken
    rw [closeBlocks_outermost (.inr rfl)]
    simp [Glyph.atDocumentMark_of_column, hcolumn, inFlow, readBlockScalar, closeKey, hread, emit,
      hstyle]
  · simpa using hlength
  · rw [h _ _ (atLine_of_skipGap (skipGap_of_fresh hmore) (by simp))]
    simp

/-- A written text is read back, in whatever way it is written. -/
theorem givesInside_written {style : ScalarStyle} {written : List Char}
    (hwritten : WrittenAs cs style written) (hmore : Fresh more) (h : Gives [0] more tokens) :
    GivesInside keyAllowed (' ' :: (written ++ more)) (.scalar cs style :: tokens) := by
  cases hwritten with
  | plain hplain hcs => simpa using givesInside_plain hcs hplain hmore h
  | singleQuoted hsingle hfeed => simpa using givesInside_singleQuoted hsingle hfeed hmore h
  | doubleQuoted => simpa using givesInside_doubleQuoted hmore h
  | literal hliteral hfeed =>
    simpa [Block.lineEnd] using givesInside_literal hliteral (List.ne_nil_of_mem hfeed) hmore h

theorem run_closingBracket (hcolumn : column ≠ 0) (hmore : Fresh more) (h : Gives [0] more tokens) :
    run ⟨layOut line column index (']' :: '\n' :: more), read, [0], true, none, [none]⟩ =
      read.reverse ++ .flowSequenceEnd :: tokens := by
  have hlay : layOut line column index (']' :: '\n' :: more) =
      ⟨']', line, column, index⟩ :: layOut line (column + 1) (index + 1) ('\n' :: more) :=
    Glyph.layOut_cons (by decide)
  have hskip : skipGap true false true (layOut line column index (']' :: '\n' :: more)) =
      (true, layOut line column index (']' :: '\n' :: more)) :=
    skipGap_of_head (by decide) (by decide) (by decide) (by decide) true
  have hread : readToken
      ⟨layOut line column index (']' :: '\n' :: more), read, [0], true, none, [none]⟩
      ⟨']', line, column, index⟩ (layOut line (column + 1) (index + 1) ('\n' :: more)) =
        some ⟨layOut line (column + 1) (index + 1) ('\n' :: more), .flowSequenceEnd :: read, [0],
          false, none, []⟩ := by
    unfold readToken
    rw [closeBlocks_outermost (.inr rfl)]
    simp [Glyph.atDocumentMark_of_column, hcolumn, closeFlow, closeKey, emit]
  have hreaches : Reaches
      ⟨layOut line column index (']' :: '\n' :: more), read, [0], true, none, [none]⟩
      ⟨layOut line column index (']' :: '\n' :: more), read, [0], true, none, [none]⟩ :=
    ⟨_, rfl, by simp [advance, inFlow, hskip]; rfl⟩
  rw [run_of_reaches hreaches hlay hread (by simp),
    givesInside_break hmore h line (column + 1) (index + 1) _ (by omega)]
  simp

theorem givesInside_brackets (hmore : Fresh more) (h : Gives [0] more tokens) :
    GivesInside false (' ' :: '[' :: ']' :: '\n' :: more)
      (.flowSequenceStart :: .flowSequenceEnd :: tokens) := by
  refine givesInside_space (by decide) (by decide) (by decide) (by decide) ?_
  intro line column index read hcolumn
  refine ⟨⟨layOut line (column + 1) (index + 1) (']' :: '\n' :: more),
    .flowSequenceStart :: read, [0], true, none, [none]⟩, ?_, ?_, ?_⟩
  · unfold readToken
    rw [closeBlocks_outermost (.inr rfl)]
    simp [Glyph.atDocumentMark_of_column, hcolumn, openFlow, offerKey, emit]
  · simp
  · rw [run_closingBracket (by omega) hmore h]
    simp

end Steps

end Lexer
end Markup
end RowBatch
