import RowBatch.Proofs.Update.Language

/-!
The faults of expressions that are no update rule. Several of them can be in one expression; the
reader tells the first in a fixed order, and always with the whole expression.
-/

namespace RowBatch

def ConfigError.Malformed (e : ConfigError) (raw reason : String) : Prop :=
  ∃ fault, e = .malformedExpression raw fault ∧ fault.message = reason

namespace ConfigError

@[simp] theorem malformed_malformedExpression {raw reason : String} {fault : ExpressionFault} :
    (malformedExpression raw fault).Malformed raw reason ↔ fault.message = reason := by
  simp [Malformed]

@[simp] theorem not_malformed_emptyExpression {raw reason : String} :
    ¬emptyExpression.Malformed raw reason := by
  simp [Malformed]

@[simp] theorem not_malformed_missingConcatDelimiter {raw reason : String} :
    ¬(missingConcatDelimiter raw).Malformed raw reason := by
  simp [Malformed]

end ConfigError

namespace Operator

theorem exists_ofSymbol {symbol : Char} (h : isSymbol symbol = true) (hbar : symbol ≠ '|') :
    ∃ operator, ofSymbol symbol none = .ok operator := by
  have hmem : symbol ∈ symbols := by simpa [isSymbol] using h
  simp only [symbols, List.mem_cons, List.not_mem_nil, or_false] at hmem
  rcases hmem with rfl | rfl | rfl | rfl | rfl
  · exact ⟨.add, rfl⟩
  · exact ⟨.subtract, rfl⟩
  · exact ⟨.multiply, rfl⟩
  · exact ⟨.divide, rfl⟩
  · exact absurd rfl hbar

end Operator

namespace UpdateRule

def symbol? (raw : String) : Option Char := raw.toList.find? Operator.isSymbol

def afterSymbol (raw : String) : List Char :=
  (raw.toList.dropWhile fun c => !Operator.isSymbol c).tail

/-- What is taken for the reference: all that follows the symbol, and for a bar what stands in
front of the next bar. -/
def segment (raw : String) : List Char :=
  if symbol? raw = some '|' then (afterSymbol raw).takeWhile (· != '|') else afterSymbol raw

def StartsWithSymbol (raw : String) : Prop :=
  ∃ c ∈ raw.toList.head?, Operator.isSymbol c = true

def afterBar (raw : String) : List Char := ((afterSymbol raw).dropWhile (· != '|')).tail

/-- The first symbol is a bar, and what follows it has no bar, or other than one character behind
its first bar. -/
def LacksDelimiter (raw : String) : Prop :=
  symbol? raw = some '|' ∧ ('|' ∉ afterSymbol raw ∨ (afterBar raw).length ≠ 1)

def target (raw : String) : List Char := raw.toList.takeWhile fun c => !Operator.isSymbol c

theorem cutAt_symbol (raw : String) :
    Text.cutAt Operator.isSymbol raw.toList =
      (symbol? raw).map fun symbol => (target raw, symbol, afterSymbol raw) :=
  Text.cutAt_eq_map_find? _ _

theorem cutAt_bar {raw : String} (h : symbol? raw = some '|') :
    Text.cutAt (· == '|') (afterSymbol raw) =
      ((afterSymbol raw).find? (· == '|')).map fun mark => (segment raw, mark, afterBar raw) := by
  rw [Text.cutAt_eq_map_find?, segment, if_pos h]
  rfl

theorem target_ne_nil {raw : String} {symbol : Char} (h : symbol? raw = some symbol)
    (hstart : ¬StartsWithSymbol raw) : target raw ≠ [] := by
  intro hnil
  apply hstart
  unfold symbol? at h
  unfold target at hnil
  cases hraw : raw.toList with
  | nil => simp [hraw] at h
  | cons c rest =>
    by_cases hc : Operator.isSymbol c
    · exact ⟨c, by rw [hraw]; rfl, hc⟩
    · simp [hraw, hc] at hnil

theorem symbol?_of_startsWithSymbol {raw : String} (h : StartsWithSymbol raw) :
    ∃ symbol, symbol? raw = some symbol ∧ target raw = [] := by
  obtain ⟨c, hc, hsymbol⟩ := h
  obtain ⟨rest, hraw⟩ := List.head?_eq_some_iff.mp hc
  exact ⟨c, by simp [symbol?, hraw, hsymbol], by simp [target, hraw, hsymbol]⟩

theorem parse_of_blank {raw : String} (h : Text.isBlank raw = true) :
    parse raw = .error .emptyExpression := by
  rw [parse, if_pos h]

section NotBlank

variable {raw : String} (hblank : Text.isBlank raw = false)
include hblank

theorem parse_of_startsWithSymbol (h : StartsWithSymbol raw) :
    parse raw = .error (.malformedExpression raw .missingTarget) := by
  obtain ⟨symbol, hsymbol, htarget⟩ := symbol?_of_startsWithSymbol h
  rw [parse, if_neg (by simp [hblank]), cutAt_symbol, hsymbol, htarget]
  rfl

variable (hstart : ¬StartsWithSymbol raw)
include hstart

theorem parse_of_bar (h : symbol? raw = some '|') :
    parse raw =
      match Text.cutAt (· == '|') (afterSymbol raw) with
      | some (operand, _, [delimiter]) =>
        (reference raw operand).map (.combine (String.ofList (target raw)) (.concat delimiter))
      | _ => .error (.missingConcatDelimiter raw) := by
  have htarget := target_ne_nil h hstart
  rw [parse, if_neg (by simp [hblank]), cutAt_symbol, h]
  cases hcolumn : target raw with
  | nil => exact absurd hcolumn htarget
  | cons c column => rfl

theorem parse_of_lacksDelimiter (h : LacksDelimiter raw) :
    parse raw = .error (.missingConcatDelimiter raw) := by
  obtain ⟨hbar, hdelimiter⟩ := h
  rw [parse_of_bar hblank hstart hbar, cutAt_bar hbar]
  split
  · rename_i delimiter hcut
    obtain ⟨mark, hmark, hparts⟩ := Option.map_eq_some_iff.mp hcut
    have hone : afterBar raw = [delimiter] := by simp_all
    have hmem : '|' ∈ afterSymbol raw := by
      have hfound : mark = '|' := by simpa using List.find?_some hmark
      exact hfound ▸ List.mem_of_find?_eq_some hmark
    rcases hdelimiter with hmissing | hlength
    · exact absurd hmem hmissing
    · exact absurd (by rw [hone]; rfl) hlength
  · rfl

/-- What is no fault of another kind is a fault of the reference. -/
theorem exists_parse_eq_reference (hdelimiter : ¬LacksDelimiter raw) {symbol : Char}
    (h : symbol? raw = some symbol) :
    ∃ rule : String → UpdateRule, parse raw = (reference raw (segment raw)).map rule := by
  by_cases hbar : symbol = '|'
  · subst hbar
    have hends : '|' ∈ afterSymbol raw ∧ (afterBar raw).length = 1 := by
      simpa [LacksDelimiter, h] using hdelimiter
    obtain ⟨hmem, hone⟩ := hends
    obtain ⟨delimiter, hafter⟩ := List.length_eq_one_iff.mp hone
    have hfound : (afterSymbol raw).find? (· == '|') = some '|' := by
      cases hbar : (afterSymbol raw).find? (· == '|') with
      | none => exact absurd rfl (List.find?_eq_none.mp hbar '|' hmem)
      | some mark => simpa using List.find?_some hbar
    refine ⟨.combine (String.ofList (target raw)) (.concat delimiter), ?_⟩
    rw [parse_of_bar hblank hstart h, cutAt_bar h, hfound, hafter]
    rfl
  · obtain ⟨operator, hoperator⟩ := Operator.exists_ofSymbol (List.find?_some h) hbar
    have hsegment : segment raw = afterSymbol raw := by simp [segment, h, hbar]
    have htarget := target_ne_nil h hstart
    refine ⟨.combine (String.ofList (target raw)) operator, ?_⟩
    rw [parse, if_neg (by simp [hblank]), cutAt_symbol, h, hsegment]
    cases hcolumn : target raw with
    | nil => exact absurd hcolumn htarget
    | cons c column =>
      simp only [Option.map_some, hoperator]
      rfl

end NotBlank

theorem parse_of_no_symbol {raw : String} (hblank : Text.isBlank raw = false)
    (h : symbol? raw = none) : parse raw = .ok (.replace raw) := by
  rw [parse, if_neg (by simp [hblank]), cutAt_symbol, h]
  rfl

theorem reference_eq_error {raw : String} {operand : List Char} {e : ConfigError}
    (h : reference raw operand = .error e) :
    (operand = [] ∧ e = .malformedExpression raw .missingReference) ∨
      (operand ≠ [] ∧ e = .malformedExpression raw .secondOperator ∧
        ∃ c ∈ operand, Operator.isSymbol c = true) := by
  unfold reference at h
  split at h
  · rename_i hempty
    exact .inl ⟨by simpa using hempty, (Except.error.inj h).symm⟩
  · rename_i hne
    split at h
    · rename_i hsymbol
      exact .inr ⟨by simpa using hne, (Except.error.inj h).symm, by simpa using hsymbol⟩
    · exact nomatch h

/-- The fault of an expression that is refused, with what holds of the expression. The faults are in
the order in which they are looked for. -/
inductive Fault (raw : String) : ConfigError → Prop
  | blank (h : Text.isBlank raw = true) : Fault raw .emptyExpression
  | target (hblank : Text.isBlank raw = false) (h : StartsWithSymbol raw) :
      Fault raw (.malformedExpression raw .missingTarget)
  | delimiter (hblank : Text.isBlank raw = false) (hstart : ¬StartsWithSymbol raw)
      (h : LacksDelimiter raw) : Fault raw (.missingConcatDelimiter raw)
  | reference (hblank : Text.isBlank raw = false) (hstart : ¬StartsWithSymbol raw)
      (hdelimiter : ¬LacksDelimiter raw) (h : segment raw = []) :
      Fault raw (.malformedExpression raw .missingReference)
  | second (hblank : Text.isBlank raw = false) (hstart : ¬StartsWithSymbol raw)
      (hdelimiter : ¬LacksDelimiter raw) (hreference : segment raw ≠ [])
      (h : ∃ c ∈ segment raw, Operator.isSymbol c = true) :
      Fault raw (.malformedExpression raw .secondOperator)

theorem fault_of_parse {raw : String} {e : ConfigError} (h : parse raw = .error e) :
    Fault raw e := by
  cases hblank : Text.isBlank raw with
  | true =>
    rw [parse_of_blank hblank] at h
    obtain rfl := Except.error.inj h
    exact .blank hblank
  | false =>
    by_cases hstart : StartsWithSymbol raw
    · rw [parse_of_startsWithSymbol hblank hstart] at h
      obtain rfl := Except.error.inj h
      exact .target hblank hstart
    by_cases hdelimiter : LacksDelimiter raw
    · rw [parse_of_lacksDelimiter hblank hstart hdelimiter] at h
      obtain rfl := Except.error.inj h
      exact .delimiter hblank hstart hdelimiter
    cases hsymbol : symbol? raw with
    | none => rw [parse_of_no_symbol hblank hsymbol] at h; exact nomatch h
    | some symbol =>
      obtain ⟨rule, hparse⟩ := exists_parse_eq_reference hblank hstart hdelimiter hsymbol
      have hreference : reference raw (segment raw) = .error e := by
        rw [hparse] at h
        cases hread : reference raw (segment raw) with
        | ok operand => rw [hread] at h; exact nomatch h
        | error e' => rw [hread] at h; exact congrArg Except.error (Except.error.inj h)
      rcases reference_eq_error hreference with ⟨hnil, rfl⟩ | ⟨hne, rfl, hsecond⟩
      · exact .reference hblank hstart hdelimiter hnil
      · exact .second hblank hstart hdelimiter hne hsecond

/-- Which error an expression that is refused gets. -/
theorem error_classified {raw : String} {e : ConfigError} (h : parse raw = .error e) :
    (e = .emptyExpression ↔ ∀ c ∈ raw.toList, Text.isWhiteSpace c = true) ∧
    (¬(∀ c ∈ raw.toList, Text.isWhiteSpace c = true) →
      (e.Malformed raw "missing target column" ↔ StartsWithSymbol raw) ∧
      (¬StartsWithSymbol raw →
        (e = .missingConcatDelimiter raw ↔ LacksDelimiter raw) ∧
        (¬LacksDelimiter raw →
          (e.Malformed raw "missing reference column" ↔ segment raw = []) ∧
          (segment raw ≠ [] →
            e.Malformed raw "only one operator is allowed" ∧
              ∃ c ∈ segment raw, Operator.isSymbol c = true)))) ∧
    (e = .emptyExpression ∨ e.Malformed raw "missing target column" ∨
      e = .missingConcatDelimiter raw ∨ e.Malformed raw "missing reference column" ∨
      e.Malformed raw "only one operator is allowed") ∧
    ∀ symbol, e ≠ .unsupportedOperator symbol := by
  have hwhite : Text.isBlank raw = true ↔ ∀ c ∈ raw.toList, Text.isWhiteSpace c = true := by
    simp [Text.isBlank]
  rw [← hwhite]
  cases fault_of_parse h with
  | blank hblank => simp [hblank]
  | target hblank hstart => simp [hblank, hstart, ExpressionFault.message]
  | delimiter hblank hstart hdelimiter => simp [hblank, hstart, hdelimiter]
  | reference hblank hstart hdelimiter hnil =>
    simp [hblank, hstart, hdelimiter, hnil, ExpressionFault.message]
  | second hblank hstart hdelimiter hne hsecond =>
    simp [hblank, hstart, hdelimiter, hne, hsecond, ExpressionFault.message]

/-- An expression with two faults: the missing delimiter is told, and not the second operator that
stands in front of it. -/
theorem twoFaults_classified :
    parse "tags|a+b|" = .error (.missingConcatDelimiter "tags|a+b|") ∧
      ¬StartsWithSymbol "tags|a+b|" ∧ LacksDelimiter "tags|a+b|" := by
  have hparse : parse "tags|a+b|" = .error (.missingConcatDelimiter "tags|a+b|") := rfl
  have hstart : ¬StartsWithSymbol "tags|a+b|" := by
    rintro ⟨c, hc, hsymbol⟩
    obtain rfl : 't' = c := by simpa using hc
    exact absurd hsymbol (by decide)
  have hnotWhite : ¬∀ c ∈ "tags|a+b|".toList, Text.isWhiteSpace c = true :=
    fun h => absurd (h 't' (by simp)) (by decide)
  have hclassified := (error_classified hparse).2.1 hnotWhite
  exact ⟨hparse, hstart, (hclassified.2 hstart).1.mp rfl⟩

end UpdateRule
end RowBatch
