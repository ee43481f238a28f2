import RowBatch.Proofs.Update.Language

/-!
The assignments of a list of expressions in the two dialects. The same lists are refused in both,
and the clauses of a rule are the same text around the reference to the incoming row; only a
delimiter that is a backslash is written twice where backslashes escape.
-/

namespace RowBatch
namespace UpdateRule

def delimiter? : UpdateRule → Option Char
  | .combine _ (.concat delimiter) _ => some delimiter
  | _ => none

/-- A clause up to the reference to the incoming row. -/
def opening (d : Dialect) (rule : UpdateRule) : String :=
  match rule.delimiter? with
  | some delimiter => rule.column ++ " = CONCAT_WS('" ++ literalChar d delimiter ++ "', "
  | none => rule.column ++ " = "

def joint : Operator → String
  | .concat _ => ", "
  | operator => " " ++ operator.symbol.toString ++ " "

def bracket (rule : UpdateRule) : String := if rule.delimiter?.isSome then ")" else ""

def closing (table : String) : UpdateRule → String
  | .replace _ => ""
  | .combine column operator operand =>
    joint operator ++ (table ++ "." ++ operand ++ bracket (.combine column operator operand))

/-- The dialect shows in a clause where the incoming row is referred to, and in the literal of a
delimiter. -/
theorem clause_eq (d : Dialect) (table : String) (rule : UpdateRule) :
    clause d table rule = rule.opening d ++ d.incoming rule.column ++ rule.closing table := by
  cases rule with
  | replace column => simp [clause, opening, closing, delimiter?, UpdateRule.column]
  | combine column operator operand =>
    cases operator <;>
      simp [clause, opening, closing, joint, bracket, delimiter?, UpdateRule.column,
        Operator.symbol, ← String.toList_inj]

theorem literalChar_eq {delimiter : Char} (h : delimiter ≠ '\\') :
    literalChar .values delimiter = literalChar .excluded delimiter := by
  simp [literalChar, h]

theorem opening_values {rule : UpdateRule} (h : rule.delimiter? ≠ some '\\') :
    rule.opening .values = rule.opening .excluded := by
  unfold opening
  cases hd : rule.delimiter? with
  | none => rfl
  | some delimiter =>
    have hne : delimiter ≠ '\\' := fun heq => h (hd.trans (congrArg some heq))
    simp only [literalChar_eq hne]

theorem exists_opening_eq (d : Dialect) (rule : UpdateRule) :
    ∃ assigned, rule.opening d = rule.column ++ " = " ++ assigned := by
  unfold opening
  cases rule.delimiter? with
  | none => exact ⟨"", by simp⟩
  | some delimiter =>
    exact ⟨"CONCAT_WS('" ++ literalChar d delimiter ++ "', ", by simp [← String.toList_inj]⟩

/-- Two clauses with the same text around the reference to the incoming row, one in each dialect.
Only a backslash as the delimiter makes a difference in front of the reference. -/
def Twins (table : String) (rule : UpdateRule) (excluded values : String) : Prop :=
  ∃ before before' after : String,
    excluded = before ++ "EXCLUDED." ++ rule.column ++ after ∧
    values = before' ++ "VALUES(" ++ rule.column ++ ")" ++ after ∧
    (rule.delimiter? ≠ some '\\' → before' = before) ∧
    (rule.delimiter? = some '\\' → before = rule.column ++ " = CONCAT_WS('\\', " ∧
      before' = rule.column ++ " = CONCAT_WS('\\\\', ") ∧
    (∃ assigned, before = rule.column ++ " = " ++ assigned) ∧
    (∃ assigned, before' = rule.column ++ " = " ++ assigned) ∧
    ∀ operand, rule.operand? = some operand →
      ∃ front, after = front ++ (table ++ "." ++ operand ++ rule.bracket)

theorem twins_clause (table : String) (rule : UpdateRule) :
    Twins table rule (clause .excluded table rule) (clause .values table rule) := by
  refine ⟨rule.opening .excluded, rule.opening .values, rule.closing table, ?_, ?_, opening_values,
    ?_, exists_opening_eq _ _, exists_opening_eq _ _, ?_⟩
  · simp [clause_eq, Dialect.incoming, String.append_assoc]
  · simp [clause_eq, Dialect.incoming, String.append_assoc]
  · intro h
    simp [opening, h, literalChar, ← String.toList_inj]
  · intro operand h
    cases rule with
    | replace column => exact nomatch h
    | combine column operator name =>
      obtain rfl : name = operand := Option.some.inj h
      exact ⟨joint operator, rfl⟩

/-- The error of the first expression that can not be read. -/
def FirstRejected (raws : List String) (cause : ConfigError) : Prop :=
  ∃ earlier raw later, raws = earlier ++ raw :: later ∧
    (∀ raw ∈ earlier, ∃ rule, parse raw = .ok rule) ∧ parse raw = .error cause

theorem firstRejected_nil {cause : ConfigError} : ¬FirstRejected [] cause := by
  rintro ⟨earlier, raw, later, hraws, -, -⟩
  simp at hraws

theorem firstRejected_cons {raw : String} {raws : List String} {cause : ConfigError} :
    FirstRejected (raw :: raws) cause ↔
      parse raw = .error cause ∨ (∃ rule, parse raw = .ok rule) ∧ FirstRejected raws cause := by
  constructor
  · rintro ⟨earlier, rejected, later, hraws, hearlier, hcause⟩
    cases earlier with
    | nil =>
      obtain ⟨rfl, rfl⟩ := List.cons.inj hraws
      exact .inl hcause
    | cons first earlier =>
      obtain ⟨rfl, rfl⟩ := List.cons.inj hraws
      have hread := List.forall_mem_cons.mp hearlier
      exact .inr ⟨hread.1, earlier, rejected, later, rfl, hread.2, hcause⟩
  · rintro (hcause | ⟨hread, earlier, rejected, later, rfl, hearlier, hcause⟩)
    · exact ⟨[], raw, raws, rfl, by simp, hcause⟩
    · exact ⟨raw :: earlier, rejected, later, rfl, List.forall_mem_cons.mpr ⟨hread, hearlier⟩, hcause⟩

theorem parseAll_eq_error_iff {raws : List String} {cause : ConfigError} :
    parseAll raws = .error cause ↔ FirstRejected raws cause := by
  induction raws with
  | nil => simp [parseAll, firstRejected_nil]
  | cons raw raws ih =>
    rw [firstRejected_cons, ← ih]
    cases hraw : parse raw with
    | error first => simp [parseAll, hraw, bind, Except.bind]
    | ok rule =>
      cases hraws : parseAll raws <;> simp [parseAll, hraw, hraws, bind, Except.bind, pure, Except.pure]

section Compile

variable {d : Dialect} {table : String} {raws clauses : List String}

theorem compile_eq_error_iff {cause : ConfigError} :
    compile d table raws = .error cause ↔ FirstRejected raws cause := by
  rw [← parseAll_eq_error_iff, compile]
  cases parseAll raws <;> simp [Except.map]

theorem compile_eq_ok_iff : compile d table raws = .ok clauses ↔
    ∃ rules, parseAll raws = .ok rules ∧ rules.map (clause d table) = clauses :=
  ConfigError.map_eq_ok_iff

theorem exists_compile_iff : (∃ clauses, compile d table raws = .ok clauses) ↔
    ∃ rules, parseAll raws = .ok rules := by
  simp only [compile_eq_ok_iff]
  constructor
  · rintro ⟨clauses, rules, hrules, -⟩
    exact ⟨rules, hrules⟩
  · rintro ⟨rules, hrules⟩
    exact ⟨_, rules, hrules, rfl⟩

/-- A list of expressions is compiled alike in both dialects: refused in both or in neither, for the
first expression that can not be read, and otherwise to one clause for each expression, which
differ at the reference to the incoming row. -/
theorem dialects_compile_alike (table : String) (raws : List String) :
    ((∃ clauses, compile .excluded table raws = .ok clauses) ↔
      ∃ clauses, compile .values table raws = .ok clauses) ∧
    (∀ d cause, compile d table raws = .error cause ↔ FirstRejected raws cause) ∧
    ∀ excluded values, compile .excluded table raws = .ok excluded →
      compile .values table raws = .ok values →
      excluded.length = raws.length ∧ values.length = raws.length ∧
      ∀ (i : Nat) raw, raws[i]? = some raw → ∃ rule clause clause', parse raw = .ok rule ∧
        excluded[i]? = some clause ∧ values[i]? = some clause' ∧
        Twins table rule clause clause' := by
  refine ⟨exists_compile_iff.trans exists_compile_iff.symm, fun _ _ => compile_eq_error_iff, ?_⟩
  intro excluded values hexcluded hvalues
  obtain ⟨rules, hrules, rfl⟩ := compile_eq_ok_iff.mp hexcluded
  obtain ⟨rules', hrules', rfl⟩ := compile_eq_ok_iff.mp hvalues
  obtain rfl : rules = rules' := Except.ok.inj (hrules.symm.trans hrules')
  have hread := forall₂_of_parseAll hrules
  have hlength := hread.length_eq
  refine ⟨by simp [hlength], by simp [hlength], fun i raw hraw => ?_⟩
  have hi : i < rules.length := hlength ▸ (List.getElem?_eq_some_iff.mp hraw).1
  have hrule : parse raw = .ok rules[i] := by
    have hget := (List.forall₂_iff_get.mp hread).2 i (hlength ▸ hi) hi
    obtain ⟨_, rfl⟩ := List.getElem?_eq_some_iff.mp hraw
    exact hget
  exact ⟨rules[i], _, _, hrule, by simp [hi], by simp [hi], twins_clause table rules[i]⟩

end Compile

theorem escapedTags_compile_alike :
    ∃ excluded values, compile .excluded "posts" ["name", "tags|topic|\\"] = .ok excluded ∧
      compile .values "posts" ["name", "tags|topic|\\"] = .ok values ∧
      excluded.length = 2 ∧ values.length = 2 ∧ ∃ rule clause clause',
        parse "tags|topic|\\" = .ok rule ∧ excluded[1]? = some clause ∧
        values[1]? = some clause' ∧ Twins "posts" rule clause clause' := by
  have hexcluded : compile .excluded "posts" ["name", "tags|topic|\\"] = .ok _ := rfl
  have hvalues : compile .values "posts" ["name", "tags|topic|\\"] = .ok _ := rfl
  obtain ⟨-, -, hclauses⟩ := dialects_compile_alike "posts" ["name", "tags|topic|\\"]
  obtain ⟨hcount, hcount', htwins⟩ := hclauses _ _ hexcluded hvalues
  exact ⟨_, _, hexcluded, hvalues, hcount, hcount', htwins 1 _ rfl⟩

end UpdateRule
end RowBatch
