import RowBatch.Markup.Scalar.Written
import RowBatch.Proofs.Text.Unambiguous

/-!
What the writer of scalars writes. A text is written with printable characters only, whatever it
holds, and an identifier is written as it is.
-/

namespace RowBatch
namespace Markup

theorem isBreak_iff {c : Char} : isBreak c = true ↔ c = '\n' ∨ c = '\u2028' ∨ c = '\u2029' := by
  simp [isBreak, or_assoc]

@[simp] theorem isBreak_lineFeed : isBreak '\n' = true := by decide

@[simp] theorem isBlank_lineFeed : isBlank '\n' = false := by decide

@[simp] theorem isBreak_space : isBreak ' ' = false := by decide

@[simp] theorem isBlank_space : isBlank ' ' = true := by decide

theorem ne_of_holds {p : Char → Bool} {c d : Char} (hc : p c = true) (hd : p d = false) :
    c ≠ d := by
  rintro rfl
  simp [hd] at hc

theorem gap_of_isNameChar {c : Char} (hc : isNameChar c = true) :
    isBlank c = false ∧ isBreak c = false ∧ c ≠ '#' ∧ c ≠ byteOrderMark := by
  have hne (d : Char) (hd : isNameChar d = false) : c ≠ d := ne_of_holds hc hd
  refine ⟨?_, ?_, hne _ (by decide), hne _ (by decide)⟩
  · simp [isBlank, hne ' ' (by decide), hne '\t' (by decide)]
  · simp [isBreak, hne '\n' (by decide), hne '\u2028' (by decide), hne '\u2029' (by decide)]

namespace Written

theorem isPrintable_iff {c : Char} : isPrintable c = true ↔
    c = '\n' ∨ (0x20 ≤ c.toNat ∧ c.toNat ≤ 0x7e) ∨
      (0xa0 ≤ c.toNat ∧ c.toNat ≤ 0xfffd ∧ c ≠ byteOrderMark) ∨ 0x10000 ≤ c.toNat := by
  simp [isPrintable, or_assoc, and_assoc]

theorem isAllowed_of_isPrintable {c : Char} (h : isPrintable c = true) : isAllowed c = true := by
  rcases isPrintable_iff.mp h with rfl | h | h | h
  · decide
  all_goals simp [isAllowed, h]

theorem isBlank_of_isPrintable {c : Char} (h : isPrintable c = true) (hspace : c ≠ ' ') :
    isBlank c = false := by
  simp [isBlank, hspace, ne_of_holds h (by decide : isPrintable '\t' = false)]

theorem hasPair_cons_eq_false {p q : Char → Bool} {c : Char} {cs : List Char} :
    hasPair p q (c :: cs) = false ↔
      (p c = true → ∀ d ∈ cs.head?, q d = false) ∧ hasPair p q cs = false := by
  cases cs <;> simp [hasPair]

theorem allowsSingle_cons {c : Char} {cs : List Char} (h : allowsSingle (c :: cs) = true) :
    isPrintable c = true ∧ (isSpace c = true → ∀ d ∈ cs.head?, isBreak d = false) ∧
      (isBreak c = true → ∀ d ∈ cs.head?, isSpace d = false) ∧ allowsSingle cs = true := by
  simp only [allowsSingle, Bool.and_eq_true, Bool.not_eq_true', List.all_cons,
    hasPair_cons_eq_false] at h ⊢
  obtain ⟨⟨⟨hc, hall⟩, hspace, hbefore⟩, hbreak, hbehind⟩ := h
  exact ⟨hc, hspace, hbreak, ⟨hall, hbefore⟩, hbehind⟩

def upperDigit (d : Fin 16) : Char := (Nat.digitChar d.val).toUpper

theorem isPrintable_upperDigit (d : Fin 16) : isPrintable (upperDigit d) = true := by
  revert d
  decide

def ofDigits (digits : List (Fin 16)) : Nat := digits.foldl (fun n d => 16 * n + d.val) 0

theorem exists_toDigits (n : Nat) :
    ∃ digits : List (Fin 16), Nat.toDigits 16 n = digits.map (fun d => Nat.digitChar d.val) ∧
      ofDigits digits = n := by
  induction n using Nat.strongRecOn with
  | ind n ih =>
    by_cases h : n < 16
    · exact ⟨[⟨n, h⟩], by simp [Nat.toDigits_of_lt_base h], by simp [ofDigits]⟩
    · obtain ⟨digits, hdigits, hvalue⟩ := ih (n / 16) (by omega)
      refine ⟨digits ++ [⟨n % 16, Nat.mod_lt n (by decide)⟩], ?_, ?_⟩
      · rw [Nat.toDigits_eq_if (by decide), if_neg h, hdigits]
        simp
      · simp only [ofDigits, List.foldl_append, List.foldl_cons, List.foldl_nil] at hvalue ⊢
        rw [hvalue]
        omega

theorem hex_eq (width n : Nat) :
    ∃ digits : List (Fin 16), hex width n = digits.map upperDigit ∧ ofDigits digits = n := by
  obtain ⟨digits, hdigits, hvalue⟩ := exists_toDigits n
  have hzeros (k : Nat) : ofDigits (List.replicate k 0) = 0 := by
    induction k with
    | zero => rfl
    | succ k ih => simpa [ofDigits, List.replicate_succ] using ih
  refine ⟨List.replicate (width - digits.length) 0 ++ digits, ?_, ?_⟩
  · have hupper : (Nat.toDigits 16 n).map Char.toUpper = digits.map upperDigit := by
      rw [hdigits, List.map_map]
      rfl
    have hzero : upperDigit 0 = '0' := by decide
    simp [hex, hupper, hzero]
  · simp only [ofDigits, List.foldl_append] at hzeros hvalue ⊢
    rw [hzeros, hvalue]

theorem length_hex {width n : Nat} (h : n < 16 ^ width) (hwidth : 0 < width) :
    (hex width n).length = width := by
  have := (Nat.length_toDigits_le_iff (b := 16) (by decide) hwidth).mpr h
  simp only [hex, List.length_append, List.length_replicate, List.length_map]
  omega

theorem all_hex (width n : Nat) : (hex width n).all isPrintable = true := by
  obtain ⟨digits, hdigits, _⟩ := hex_eq width n
  simp [hdigits, isPrintable_upperDigit]

theorem all_numbered (c : Char) : (numbered c).all isPrintable = true := by
  unfold numbered
  split
  · simpa [all_hex] using (by decide : isPrintable 'x' = true)
  · split
    · simpa [all_hex] using (by decide : isPrintable 'u' = true)
    · simpa [all_hex] using (by decide : isPrintable 'U' = true)

def isBare (c : Char) : Bool := isPrintable c && !isBreak c && c != '\x22' && c != '\\'

theorem all_escaped (c : Char) : (escaped c).all isPrintable = true := by
  unfold escaped
  split
  · simp_all
  · rw [List.all_cons, Bool.and_eq_true]
    refine ⟨by decide, ?_⟩
    split
    case h_15 => exact all_numbered c
    all_goals decide

/-- How a text is written, with the line break at its end. -/
inductive WrittenAs (cs : List Char) : ScalarStyle → List Char → Prop where
  | plain (h : allowsPlain cs = true) (hcs : cs ≠ []) : WrittenAs cs .plain (cs ++ ['\n'])
  | singleQuoted (h : allowsSingle cs = true) (hfeed : '\n' ∉ cs) :
    WrittenAs cs .singleQuoted ('\x27' :: single false cs ++ ['\x27', '\n'])
  | doubleQuoted : WrittenAs cs .doubleQuoted ('\x22' :: cs.flatMap escaped ++ ['\x22', '\n'])
  | literal (h : allowsLiteral cs = true) (hfeed : '\n' ∈ cs) :
    WrittenAs cs .literal (literal cs ++ if endsWith isBreak cs then [] else ['\n'])

theorem line_of_allowsPlain {cs : List Char} (hfeed : '\n' ∉ cs) (htext : Meaning.isText cs = true)
    (hplain : allowsPlain cs = true) : styleOf cs = .plain ∧ line cs = cs ++ ['\n'] := by
  have hstyle : styleOf cs = .plain := by simp [styleOf, hfeed, htext, hplain]
  exact ⟨hstyle, by simp [line, scalar, hstyle]⟩

theorem writtenAs_line (cs : List Char) : WrittenAs cs (styleOf cs) (line cs) := by
  by_cases hfeed : '\n' ∈ cs
  · by_cases h : allowsLiteral cs = true
    · have hstyle : styleOf cs = .literal := by simp [styleOf, hfeed, h]
      have hline : line cs = Written.literal cs ++ if endsWith isBreak cs then [] else ['\n'] := by
        by_cases hbreak : endsWith isBreak cs = true <;> simp [line, scalar, hstyle, hbreak]
      rw [hstyle, hline]
      exact .literal h hfeed
    · have hstyle : styleOf cs = .doubleQuoted := by simp [styleOf, hfeed, h]
      have hline : line cs = '\x22' :: cs.flatMap escaped ++ ['\x22', '\n'] := by
        simp [line, scalar, hstyle]
      rw [hstyle, hline]
      exact .doubleQuoted
  · by_cases hplain : (Meaning.isText cs && allowsPlain cs) = true
    · rw [Bool.and_eq_true] at hplain
      obtain ⟨hstyle, hline⟩ := line_of_allowsPlain hfeed hplain.1 hplain.2
      rw [hstyle, hline]
      exact .plain hplain.2 fun hnil => absurd hplain.1 (by subst hnil; decide)
    · by_cases h : allowsSingle cs = true
      · have hstyle : styleOf cs = .singleQuoted := by simp [styleOf, hfeed, hplain, h]
        have hline : line cs = '\x27' :: single false cs ++ ['\x27', '\n'] := by
          simp [line, scalar, hstyle]
        rw [hstyle, hline]
        exact .singleQuoted h hfeed
      · have hstyle : styleOf cs = .doubleQuoted := by simp [styleOf, hfeed, hplain, h]
        have hline : line cs = '\x22' :: cs.flatMap escaped ++ ['\x22', '\n'] := by
          simp [line, scalar, hstyle]
        rw [hstyle, hline]
        exact .doubleQuoted

section Printable

variable {cs : List Char} (h : cs.all isPrintable = true)
include h

theorem all_single (broken : Bool) : (single broken cs).all isPrintable = true := by
  have hindent : (if broken then indentation else []).all isPrintable = true := by
    cases broken <;> decide
  induction cs generalizing broken with
  | nil => exact hindent
  | cons c cs ih =>
    simp only [List.all_cons, Bool.and_eq_true] at h
    have hchar : (if c == '\x27' then [c, c] else [c]).all isPrintable = true := by
      split <;> simp [h.1]
    by_cases hc : isBreak c = true
    · simp only [single, if_pos hc, List.all_cons, h.1, ih h.2 true rfl, Bool.and_self]
    · simp only [single, if_neg hc, List.all_append, hindent, hchar, ih h.2 false rfl,
        Bool.and_self]

theorem all_lines (broken : Bool) : (lines broken cs).all isPrintable = true := by
  have hindent : (if broken then indentation else []).all isPrintable = true := by
    cases broken <;> decide
  induction cs generalizing broken with
  | nil => rfl
  | cons c cs ih =>
    simp only [List.all_cons, Bool.and_eq_true] at h
    by_cases hc : isBreak c = true
    · simp only [lines, if_pos hc, List.all_cons, h.1, ih h.2 true rfl, Bool.and_self]
    · simp only [lines, if_neg hc, List.all_append, List.all_cons, hindent, h.1, ih h.2 false rfl,
        Bool.and_self]

theorem all_literal : (literal cs).all isPrintable = true := by
  have hincrement : (increment cs).all isPrintable = true := by
    unfold increment
    split <;> decide
  have hchomping : (chomping cs).all isPrintable = true := by
    unfold chomping
    repeat' split
    all_goals decide
  have hmark : isPrintable '|' = true := by decide
  have hbreak : isPrintable '\n' = true := by decide
  simp only [literal, List.cons_append, List.all_cons, List.all_append, hincrement, hchomping,
    hmark, hbreak, all_lines h true, Bool.and_self]

end Printable

theorem WrittenAs.all_isPrintable {cs written : List Char} {style : ScalarStyle}
    (h : WrittenAs cs style written) : written.all isPrintable = true := by
  cases h with
  | plain h _ =>
    simp only [allowsPlain, Bool.and_eq_true] at h
    rw [List.all_append, h.1.1.1.1]
    decide
  | singleQuoted h _ =>
    simp only [allowsSingle, Bool.and_eq_true] at h
    rw [List.cons_append, List.all_cons, List.all_append, all_single h.1.1]
    decide
  | doubleQuoted =>
    have hinside : (cs.flatMap escaped).all isPrintable = true := by
      rw [List.all_flatMap, List.all_eq_true]
      exact fun c _ => all_escaped c
    rw [List.cons_append, List.all_cons, List.all_append, hinside]
    decide
  | literal h _ =>
    simp only [allowsLiteral, Bool.and_eq_true] at h
    rw [List.all_append, all_literal h.1.1]
    split <;> decide

theorem start_of_allowsPlain {c : Char} {cs : List Char}
    (h : allowsPlain (c :: cs) = true) :
    isPrintable c = true ∧ isBreak c = false ∧ c ≠ ' ' ∧ isStartMark c = false ∧
      (c = '-' ∨ c = '?' → cs.head?.all isGap = false) := by
  simp only [allowsPlain, hasMark, Bool.and_eq_true, Bool.not_eq_true',
    Bool.or_eq_false_iff, List.all_cons, List.any_cons, startsWith, List.head?_cons,
    Option.any_some, Bool.and_eq_false_iff, isSpace, List.tail_cons, beq_eq_false_iff_ne] at h
  obtain ⟨⟨⟨⟨⟨hprintable, -⟩, hbreak, -⟩, hspace⟩, -⟩, ⟨⟨⟨⟨-, hmark⟩, hgap⟩, -⟩, -⟩, -⟩ := h
  refine ⟨hprintable, hbreak, hspace, hmark, fun hc => hgap.resolve_left ?_⟩
  rcases hc with rfl | rfl <;> decide

section Identifier

variable {p q : Char → Bool} {cs : List Char}

theorem startsWith_eq_false (h : ∀ c ∈ cs, q c = false) : startsWith q cs = false := by
  cases cs with
  | nil => rfl
  | cons c cs => simpa [startsWith] using h c (by simp)

theorem endsWith_eq_false (h : ∀ c ∈ cs, q c = false) : endsWith q cs = false := by
  cases hlast : cs.getLast? with
  | none => simp [endsWith, hlast]
  | some c => simpa [endsWith, hlast] using h c (List.mem_of_getLast? hlast)

theorem hasPair_eq_false (h : ∀ c ∈ cs, p c = false) : hasPair p q cs = false := by
  induction cs with
  | nil => rfl
  | cons c cs ih =>
    refine hasPair_cons_eq_false.mpr ⟨fun hc => ?_, ih fun d hd => h d (List.mem_cons_of_mem c hd)⟩
    simp [h c (by simp)] at hc

theorem isStartMark_of_identifier {c : Char} (hc : isIdentifierChar c = true) :
    isStartMark c = false := by
  refine Bool.eq_false_iff.mpr fun hmark => ?_
  simp only [isStartMark, isFlowMark, Bool.or_eq_true, beq_iff_eq] at hmark
  rcases hmark with hflow | hmark
  · rcases hflow with (((rfl | rfl) | rfl) | rfl) | rfl <;> exact absurd hc (by decide)
  · have hmem : c ∈ "#&*!|>\x27\x22%@\x60".toList := by simpa using hmark
    have hall : "#&*!|>\x27\x22%@\x60".toList.all (fun d => !isIdentifierChar d) = true := by
      decide
    simpa [hc] using List.all_eq_true.mp hall c hmem

theorem isPrintable_of_identifier {c : Char} (hc : isIdentifierChar c = true) :
    isPrintable c = true := by
  have hupper : c.isUpper = true → 65 ≤ c.toNat ∧ c.toNat ≤ 90 := of_decide_eq_true
  have hlower : c.isLower = true → 97 ≤ c.toNat ∧ c.toNat ≤ 122 := fun h =>
    ((Bool.and_eq_true _ _).mp h).imp of_decide_eq_true of_decide_eq_true
  have hdigit : c.isDigit = true → 48 ≤ c.toNat ∧ c.toNat ≤ 57 := fun h =>
    ((Bool.and_eq_true _ _).mp h).imp of_decide_eq_true of_decide_eq_true
  refine isPrintable_iff.mpr (.inr (.inl ?_))
  rcases (Bool.or_eq_true _ _).mp hc with h | h
  · rcases (Bool.or_eq_true _ _).mp h with h | h
    · rcases (Bool.or_eq_true _ _).mp h with h | h
      · exact (hupper h).imp (Nat.le_trans (by decide)) (Nat.le_trans · (by decide))
      · exact (hlower h).imp (Nat.le_trans (by decide)) (Nat.le_trans · (by decide))
    · exact (hdigit h).imp (Nat.le_trans (by decide)) (Nat.le_trans · (by decide))
  · obtain rfl := eq_of_beq h
    decide

theorem isNameChar_of_identifier {c : Char} (hc : isIdentifierChar c = true) :
    isNameChar c = true := by
  rw [isIdentifierChar] at hc
  rw [isNameChar, hc, Bool.true_or]

theorem allowsPlain_of_identifier (hcs : ∀ c ∈ cs, isIdentifierChar c = true) :
    allowsPlain cs = true := by
  have hne (d : Char) (hd : isIdentifierChar d = false) : ∀ c ∈ cs, (c == d) = false :=
    fun c hc => beq_eq_false_iff_ne.mpr (ne_of_holds (hcs c hc) hd)
  have hprefix (d : Char) (ds : List Char) (hd : isIdentifierChar d = false) :
      (d :: ds).isPrefixOf cs = false := by
    cases cs with
    | nil => rfl
    | cons c cs =>
      rw [List.isPrefixOf, Bool.and_eq_false_iff]
      exact .inl (beq_eq_false_iff_ne.mpr (ne_of_holds (hcs c (by simp)) hd).symm)
  have hprintable : cs.all isPrintable = true :=
    List.all_eq_true.mpr fun c hc => isPrintable_of_identifier (hcs c hc)
  have hgap (c : Char) (hc : c ∈ cs) := gap_of_isNameChar (isNameChar_of_identifier (hcs c hc))
  have hbreak : cs.any isBreak = false :=
    List.any_eq_false.mpr fun c hc => by simp [hgap c hc]
  have hstart : startsWith isSpace cs = false := startsWith_eq_false (hne ' ' (by decide))
  have hend : endsWith isSpace cs = false := endsWith_eq_false (hne ' ' (by decide))
  have hmark : hasMark cs = false := by
    have hgap : ∀ c ∈ cs, isGap c = false := fun c hc => by simp [isGap, hgap c hc]
    have hdash : ∀ c ∈ cs, (c == '-' || c == '?') = false := fun c hc => by
      rw [hne '-' (by decide) c hc, hne '?' (by decide) c hc, Bool.or_self]
    have hminus : "---".toList.isPrefixOf cs = false := hprefix '-' ['-', '-'] (by decide)
    have hdots : "...".toList.isPrefixOf cs = false := hprefix '.' ['.', '.'] (by decide)
    have hstarts : startsWith isStartMark cs = false :=
      startsWith_eq_false fun c hc => isStartMark_of_identifier (hcs c hc)
    have hcolon := hne ':' (by decide)
    simp only [hasMark, hminus, hdots, hstarts, startsWith_eq_false hdash,
      hasPair_eq_false hcolon, endsWith_eq_false hcolon, hasPair_eq_false hgap, Bool.false_and,
      Bool.or_self]
  simp only [allowsPlain, hprintable, hbreak, hmark, hstart, hend, Bool.not_false,
    Bool.and_self]

end Identifier

end Written
end Markup
end RowBatch
