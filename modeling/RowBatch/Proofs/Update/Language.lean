import Mathlib.Data.List.Forall2
import RowBatch.Update.Rule

/-!
The small language of update rules as a grammar, beside the reader of it. The reader accepts just
the expressions of the grammar, and the rule that it gives tells the expression.
-/

namespace RowBatch

namespace Operator

def symbol : Operator → Char
  | .add => '+'
  | .subtract => '-'
  | .multiply => '*'
  | .divide => '/'
  | .concat _ => '|'

def isArithmetic : Operator → Bool
  | .concat _ => false
  | _ => true

@[simp] theorem isSymbol_symbol (operator : Operator) : isSymbol operator.symbol = true := by
  cases operator <;> rfl

theorem symbol_ne_bar {operator : Operator} (h : operator.isArithmetic = true) :
    operator.symbol ≠ '|' := by
  cases operator with
  | concat _ => cases h
  | _ => decide

theorem ofSymbol_eq_ok_iff {symbol : Char} {operator : Operator} (hbar : symbol ≠ '|') :
    ofSymbol symbol none = .ok operator ↔
      operator.isArithmetic = true ∧ operator.symbol = symbol := by
  unfold ofSymbol
  split
  case h_5 => exact absurd rfl hbar
  all_goals cases operator <;> simp_all [isArithmetic, Operator.symbol, eq_comm]

theorem utf8Size_eq_one {c : Char} (h : isSymbol c = true) : c.utf8Size = 1 := by
  have hmem : c ∈ symbols := by simpa [isSymbol] using h
  have hall : symbols.all (fun c => c.utf8Size == 1) = true := by decide
  simpa using List.all_eq_true.mp hall c hmem

end Operator

namespace UpdateRule

/-- A name in an expression with an operator: not empty, and without a symbol. -/
def IsName (name : String) : Prop :=
  name ≠ "" ∧ ∀ c ∈ name.toList, Operator.isSymbol c = false

/-- The grammar of expressions. -/
inductive Expresses : String → UpdateRule → Prop
  | replace {column} (h : ∀ c ∈ column.toList, Operator.isSymbol c = false) :
      Expresses column (.replace column)
  | arithmetic {column operator operand} (hcolumn : IsName column) (hoperand : IsName operand)
      (hkind : operator.isArithmetic = true) :
      Expresses (column ++ operator.symbol.toString ++ operand) (.combine column operator operand)
  | concat {column operand} (delimiter : Char) (hcolumn : IsName column)
      (hoperand : IsName operand) :
      Expresses (column ++ "|" ++ operand ++ "|" ++ delimiter.toString)
        (.combine column (.concat delimiter) operand)

def expression : UpdateRule → String
  | .replace column => column
  | .combine column (.concat delimiter) operand =>
    column ++ "|" ++ operand ++ "|" ++ delimiter.toString
  | .combine column operator operand => column ++ operator.symbol.toString ++ operand

theorem Expresses.expression_eq {raw : String} {rule : UpdateRule} (h : Expresses raw rule) :
    rule.expression = raw := by
  cases h with
  | replace _ => rfl
  | concat _ _ _ => rfl
  | @arithmetic _ operator _ _ _ hkind =>
    cases operator with
    | concat _ => cases hkind
    | _ => rfl

theorem reference_eq_ok_iff {raw name : String} {operand : List Char} :
    reference raw operand = .ok name ↔ operand = name.toList ∧ IsName name := by
  have hname : String.ofList operand = name ↔ operand = name.toList :=
    ⟨fun h => by rw [← h, String.toList_ofList], fun h => by rw [h, String.ofList_toList]⟩
  unfold reference
  split
  · rename_i hempty
    simp only [List.isEmpty_iff] at hempty
    simp only [reduceCtorEq, false_iff, IsName]
    rintro ⟨rfl, hne, -⟩
    exact hne (String.toList_eq_nil_iff.mp hempty)
  · split
    · rename_i hsymbol
      simp only [reduceCtorEq, false_iff, IsName]
      rintro ⟨rfl, -, hfree⟩
      simp only [List.any_eq_true] at hsymbol
      obtain ⟨c, hc, hs⟩ := hsymbol
      simp [hfree c hc] at hs
    · rename_i hne hfree
      rw [Except.ok.injEq, hname]
      refine ⟨?_, And.left⟩
      rintro rfl
      refine ⟨rfl, ?_, ?_⟩
      · rintro rfl
        simp at hne
      · simpa using hfree

theorem isName_ofList {name : List Char} (hne : name ≠ [])
    (hfree : ∀ c ∈ name, Operator.isSymbol c = false) : IsName (String.ofList name) := by
  refine ⟨?_, by simpa using hfree⟩
  simpa [← String.toList_inj] using hne

theorem expresses_of_parse {raw : String} {rule : UpdateRule} (h : parse raw = .ok rule) :
    Expresses raw rule := by
  unfold parse at h
  split at h
  · exact nomatch h
  · split at h
    · rename_i hcut
      obtain rfl := Except.ok.inj h
      exact .replace (Text.cutAt_eq_none_iff.mp hcut)
    · exact nomatch h
    · rename_i column rest hne hcut
      obtain ⟨hraw, -, hfree⟩ := Text.cutAt_eq_some_iff.mp hcut
      split at h
      · rename_i operand bar delimiter hsecond
        obtain ⟨hrest, hbar, -⟩ := Text.cutAt_eq_some_iff.mp hsecond
        obtain rfl : bar = '|' := by simpa using hbar
        obtain ⟨name, hname, rfl⟩ := ConfigError.map_eq_ok_iff.mp h
        obtain ⟨rfl, hoperand⟩ := reference_eq_ok_iff.mp hname
        have hwhole : raw = String.ofList column ++ "|" ++ name ++ "|" ++ delimiter.toString := by
          simp [← String.toList_inj, hraw, hrest]
        rw [hwhole]
        exact .concat delimiter (isName_ofList hne hfree) hoperand
      · exact nomatch h
    · rename_i column symbol rest hne hbar hcut
      obtain ⟨hraw, -, hfree⟩ := Text.cutAt_eq_some_iff.mp hcut
      obtain ⟨operator, hoperator, h⟩ := ConfigError.bind_eq_ok_iff.mp h
      obtain ⟨name, hname, h⟩ := ConfigError.bind_eq_ok_iff.mp h
      obtain rfl := Except.ok.inj h
      obtain ⟨hkind, rfl⟩ := (Operator.ofSymbol_eq_ok_iff hbar).mp hoperator
      obtain ⟨rfl, hoperand⟩ := reference_eq_ok_iff.mp hname
      have hwhole : raw = String.ofList column ++ operator.symbol.toString ++ name := by
        simp [← String.toList_inj, hraw]
      rw [hwhole]
      exact .arithmetic (isName_ofList hne hfree) hoperand hkind

theorem isBlank_of_parse {raw : String} {rule : UpdateRule} (h : parse raw = .ok rule) :
    Text.isBlank raw = false := by
  unfold parse at h
  split at h
  · exact nomatch h
  · rename_i hblank
    simpa using hblank

/-- Reading loses nothing: the expression can be written again from its rule. -/
theorem expression_of_parse {raw : String} {rule : UpdateRule} (h : parse raw = .ok rule) :
    rule.expression = raw :=
  (expresses_of_parse h).expression_eq

theorem parse_of_expresses {raw : String} {rule : UpdateRule} (hblank : Text.isBlank raw = false)
    (h : Expresses raw rule) : parse raw = .ok rule := by
  unfold parse
  rw [if_neg (by simp [hblank])]
  cases h with
  | replace hfree => rw [Text.cutAt_eq_none_iff.mpr hfree]
  | @arithmetic column operator operand hcolumn hoperand hkind =>
    have hcut : Text.cutAt Operator.isSymbol
        (column ++ operator.symbol.toString ++ operand).toList =
          some (column.toList, operator.symbol, operand.toList) :=
      Text.cutAt_eq_some_iff.mpr ⟨by simp, by simp, hcolumn.2⟩
    have hne : column.toList ≠ [] := fun hnil => hcolumn.1 (String.toList_eq_nil_iff.mp hnil)
    have hbar : operator.symbol ≠ '|' := Operator.symbol_ne_bar hkind
    have hoperator := (Operator.ofSymbol_eq_ok_iff hbar).mpr ⟨hkind, rfl⟩
    have hreference (raw : String) : reference raw operand.toList = .ok operand :=
      reference_eq_ok_iff.mpr ⟨rfl, hoperand⟩
    split <;> rename_i hfound <;>
      simp only [hcut, reduceCtorEq, Option.some.injEq, Prod.mk.injEq] at hfound
    · exact absurd hfound.1 hne
    · exact absurd hfound.2.1 hbar
    · obtain ⟨rfl, rfl, rfl⟩ := hfound
      rw [hoperator, hreference, String.ofList_toList]
      rfl
  | @concat column operand delimiter hcolumn hoperand =>
    have hcut : Text.cutAt Operator.isSymbol
        (column ++ "|" ++ operand ++ "|" ++ delimiter.toString).toList =
          some (column.toList, '|', operand.toList ++ ['|', delimiter]) :=
      Text.cutAt_eq_some_iff.mpr ⟨by simp, by decide, hcolumn.2⟩
    have hsecond : Text.cutAt (· == '|') (operand.toList ++ ['|', delimiter]) =
        some (operand.toList, '|', [delimiter]) := by
      refine Text.cutAt_eq_some_iff.mpr ⟨rfl, by decide, fun c hc => ?_⟩
      rw [beq_eq_false_iff_ne]
      rintro rfl
      exact absurd (hoperand.2 _ hc) (by decide)
    have hne : column.toList ≠ [] := fun hnil => hcolumn.1 (String.toList_eq_nil_iff.mp hnil)
    have hreference (raw : String) : reference raw operand.toList = .ok operand :=
      reference_eq_ok_iff.mpr ⟨rfl, hoperand⟩
    split <;> rename_i hfound <;>
      simp only [hcut, reduceCtorEq, Option.some.injEq, Prod.mk.injEq] at hfound
    · exact absurd hfound.1 hne
    · obtain ⟨rfl, -, rfl⟩ := hfound
      rw [hsecond]
      simp only [hreference, String.ofList_toList]
      rfl
    · rename_i hother
      exact absurd hfound.2.1.symm hother

theorem forall₂_of_parseAll {raws : List String} {rules : List UpdateRule}
    (h : parseAll raws = .ok rules) :
    List.Forall₂ (fun raw rule => parse raw = .ok rule) raws rules := by
  induction raws generalizing rules with
  | nil =>
    obtain rfl := Except.ok.inj h
    exact .nil
  | cons raw raws ih =>
    obtain ⟨rule, hrule, h⟩ := ConfigError.bind_eq_ok_iff.mp h
    obtain ⟨rules, hrules, h⟩ := ConfigError.bind_eq_ok_iff.mp h
    obtain rfl := Except.ok.inj h
    exact .cons hrule (ih hrules)

theorem expression_of_parseAll {raws : List String} {rules : List UpdateRule}
    (h : parseAll raws = .ok rules) : rules.map expression = raws := by
  have hread := forall₂_of_parseAll h
  clear h
  induction hread with
  | nil => rfl
  | cons hrule _ ih => rw [List.map_cons, expression_of_parse hrule, ih]

/-- Where the bytes of a text are cut at its first symbol: in front of the symbol and one byte
further, which are boundaries of characters. -/
theorem bytes_of_cut {raw : String} {column rest : List Char} {symbol : Char}
    (hcut : Text.cutAt Operator.isSymbol raw.toList = some (column, symbol, rest)) :
    let place := (String.ofList column).utf8ByteSize
    (String.Pos.Raw.mk place).IsValid raw ∧ (String.Pos.Raw.mk (place + 1)).IsValid raw ∧
      raw.toByteArray.extract 0 place = (String.ofList column).toByteArray ∧
      raw.toByteArray.extract (place + 1) raw.utf8ByteSize = (String.ofList rest).toByteArray := by
  intro place
  obtain ⟨hraw, hsymbol, -⟩ := Text.cutAt_eq_some_iff.mp hcut
  have hwhole : raw = String.ofList column ++ (symbol.toString ++ String.ofList rest) := by
    simp [← String.toList_inj, hraw]
  have hsize : (String.ofList column ++ symbol.toString).utf8ByteSize = place + 1 := by
    simp [place, Operator.utf8Size_eq_one hsymbol]
  refine ⟨?_, ?_, ?_, ?_⟩
  · exact String.Pos.Raw.isValid_iff_exists_append.mpr ⟨_, _, hwhole, rfl⟩
  · refine String.Pos.Raw.isValid_iff_exists_append.mpr
      ⟨String.ofList column ++ symbol.toString, String.ofList rest, ?_, ?_⟩
    · rw [hwhole, String.append_assoc]
    · rw [String.Pos.Raw.ext_iff]; exact hsize.symm
  · rw [hwhole, String.toByteArray_append]
    exact ByteArray.extract_append_eq_left String.size_toByteArray.symm
  · rw [hwhole, ← String.append_assoc, String.toByteArray_append]
    apply ByteArray.extract_append_eq_right
    · rw [String.size_toByteArray, hsize]
    · simp [← String.size_toByteArray]

/-- The reader accepts just the expressions of the grammar that are not blank. A rule tells its
expression, and the first symbol is cut out of the bytes of a text between characters. -/
theorem parse_accepts_language (raw : String) (rule : UpdateRule) :
    (parse raw = .ok rule ↔
      (∃ c ∈ raw.toList, Text.isWhiteSpace c = false) ∧ Expresses raw rule) ∧
    (parse raw = .ok rule → rule.expression = raw ∧ ∀ raw', parse raw' = .ok rule → raw' = raw) ∧
    ∀ column symbol rest,
      Text.cutAt Operator.isSymbol raw.toList = some (column, symbol, rest) →
      (String.Pos.Raw.mk (String.ofList column).utf8ByteSize).IsValid raw ∧
        (String.Pos.Raw.mk ((String.ofList column).utf8ByteSize + 1)).IsValid raw ∧
        raw.toByteArray.extract 0 (String.ofList column).utf8ByteSize =
          (String.ofList column).toByteArray ∧
        raw.toByteArray.extract ((String.ofList column).utf8ByteSize + 1) raw.utf8ByteSize =
          (String.ofList rest).toByteArray := by
  refine ⟨?_, ?_, fun _ _ _ => bytes_of_cut⟩
  · rw [← Text.isBlank_eq_false_iff]
    exact ⟨fun h => ⟨isBlank_of_parse h, expresses_of_parse h⟩, fun h => parse_of_expresses h.1 h.2⟩
  · intro h
    refine ⟨expression_of_parse h, fun raw' h' => ?_⟩
    rw [← expression_of_parse h, expression_of_parse h']

end UpdateRule
end RowBatch
