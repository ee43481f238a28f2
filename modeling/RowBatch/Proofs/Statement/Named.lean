import RowBatch.Proofs.Statement.Unambiguous

/-!
Which names of a configured statement can be blank. The table and the columns in plain lists never
are. Beside the operator of an expression a name is never empty, but it can be white space, and
nothing else lets a blank name into a statement.
-/

namespace RowBatch

namespace UpdateRule

/-- The names of the rule hold more than white space. -/
structure Named (rule : UpdateRule) : Prop where
  column : Text.isBlank rule.column = false
  operand : ∀ operand, rule.operand? = some operand → Text.isBlank operand = false

/-- An expression with nothing but white space at a side of its operator. -/
def HasBlankSegment (raw : String) : Prop :=
  ∃ column operator operand, Expresses raw (.combine column operator operand) ∧
    (Text.isBlank column = true ∨ Text.isBlank operand = true)

variable {raw : String} {rule : UpdateRule}

theorem ne_empty_of_not_blank {name : String} (h : Text.isBlank name = false) : name ≠ "" := by
  rintro rfl
  exact absurd h (by decide)

theorem names_of_parse (h : parse raw = .ok rule) :
    rule.column ≠ "" ∧ rule.operand? ≠ some "" ∧ (rule.operand? = none → rule.Named) := by
  have hblank : Text.isBlank raw = false := isBlank_of_parse h
  have hexpresses : Expresses raw rule := expresses_of_parse h
  cases hexpresses with
  | replace _ =>
    refine ⟨ne_empty_of_not_blank hblank, by simp [operand?], fun _ => ⟨hblank, ?_⟩⟩
    simp [operand?]
  | arithmetic hcolumn hoperand _ =>
    refine ⟨hcolumn.1, ?_, by simp [operand?]⟩
    simpa [operand?] using hoperand.1
  | concat _ hcolumn hoperand =>
    refine ⟨hcolumn.1, ?_, by simp [operand?]⟩
    simpa [operand?] using hoperand.1

theorem named_iff_of_parse (h : parse raw = .ok rule) : rule.Named ↔ ¬HasBlankSegment raw := by
  cases rule with
  | replace column =>
    have hnamed : (replace column).Named := (names_of_parse h).2.2 rfl
    refine iff_of_true hnamed ?_
    rintro ⟨column', operator, operand, hexpresses, -⟩
    have hcombine := parse_of_expresses (isBlank_of_parse h) hexpresses
    exact nomatch Except.ok.inj (h.symm.trans hcombine)
  | combine column operator operand =>
    constructor
    · rintro hnamed ⟨column', operator', operand', hexpresses, hside⟩
      have hcombine := parse_of_expresses (isBlank_of_parse h) hexpresses
      obtain ⟨rfl, rfl, rfl⟩ := UpdateRule.combine.inj (Except.ok.inj (h.symm.trans hcombine))
      rcases hside with hside | hside
      · exact absurd hnamed.column (by simp [UpdateRule.column, hside])
      · exact absurd (hnamed.operand operand rfl) (by simp [hside])
    · intro hsegments
      have hexpresses := expresses_of_parse h
      refine ⟨?_, ?_⟩
      · exact Bool.eq_false_iff.mpr fun hcolumn => hsegments ⟨_, _, _, hexpresses, .inl hcolumn⟩
      · rintro _ ⟨⟩
        exact Bool.eq_false_iff.mpr fun hoperand => hsegments ⟨_, _, _, hexpresses, .inr hoperand⟩

theorem parse_expression_of_parseAll {raws : List String} {rules : List UpdateRule}
    (h : parseAll raws = .ok rules) : ∀ rule ∈ rules, parse rule.expression = .ok rule := by
  have hread := forall₂_of_parseAll h
  clear h
  induction hread with
  | nil => simp
  | cons hrule _ ih =>
    rw [← expression_of_parse hrule] at hrule
    exact List.forall_mem_cons.mpr ⟨hrule, ih⟩

end UpdateRule

namespace Template

structure Named (t : Template) : Prop where
  table : Text.isBlank t.table = false
  insert : ∀ column ∈ t.fields.insert, Text.isBlank column = false
  conflict : ∀ column ∈ t.fields.conflict, Text.isBlank column = false
  returning : ∀ columns, t.variant.returning? = some columns →
    ∀ column ∈ columns, Text.isBlank column = false
  rules : ∀ rule ∈ t.rules, rule.Named

variable {table : String} {fields : FieldSet} {variant : Variant} {style : PlaceholderStyle}
  {t : Template}

theorem table_of_configure (h : configure table fields variant style = .ok t) :
    Text.isBlank t.table = false := by
  unfold configure at h
  split at h
  · exact nomatch h
  · rename_i htable
    obtain ⟨rules, -, rfl⟩ := ConfigError.map_eq_ok_iff.mp h
    simpa using htable

theorem returning_of_configure (h : configure table fields variant style = .ok t)
    {columns : List String} (hreturning : t.variant.returning? = some columns) :
    ∀ column ∈ columns, Text.isBlank column = false := by
  have hrules := rulesFor_of_configure h
  obtain ⟨_, t_fields, t_variant, _, t_rules⟩ := t
  cases t_variant with
  | insertDoNothing returning =>
    obtain rfl : returning = columns := Option.some.inj hreturning
    simp only [rulesFor] at hrules
    split at hrules
    · obtain ⟨_, hchecked, -⟩ := ConfigError.map_eq_ok_iff.mp hrules
      exact checkNamed_eq_ok_iff.mp hchecked
    · exact nomatch hrules
  | _ => exact nomatch hreturning

/-- The rules of a statement are those that its expressions are read as. The other kinds accept no
expression and have no rule. -/
theorem parseAll_of_configure (h : configure table fields variant style = .ok t) :
    UpdateRule.parseAll t.fields.expression = .ok t.rules := by
  have hrules := rulesFor_of_configure h
  unfold rulesFor at hrules
  split at hrules
  · split at hrules
    · rename_i hnone
      obtain ⟨_, -, hnil⟩ := ConfigError.map_eq_ok_iff.mp hrules
      rw [hnone, ← hnil]
      rfl
    · exact nomatch hrules
  · split at hrules
    · rename_i hnone
      rw [hnone, ← Except.ok.inj hrules]
      rfl
    · exact nomatch hrules
  · exact (upsertRules_eq_ok hrules).2.2.2
  · exact (upsertRules_eq_ok hrules).2.2.2

/-- Blank names come from expressions alone, and there only from a side of an operator. A statement
has none just where no expression has a blank side, and its other names are never blank. What an
operator combines is at least not empty. -/
theorem configure_named_iff (h : configure table fields variant style = .ok t) :
    (t.Named ↔ ∀ raw ∈ t.fields.expression, ¬UpdateRule.HasBlankSegment raw) ∧
      Text.isBlank t.table = false ∧
      (∀ column ∈ t.fields.insert, Text.isBlank column = false) ∧
      (∀ column ∈ t.fields.conflict, Text.isBlank column = false) ∧
      (∀ columns, t.variant.returning? = some columns →
        ∀ column ∈ columns, Text.isBlank column = false) ∧
      ∀ rule ∈ t.rules,
        rule.column ≠ "" ∧ rule.operand? ≠ some "" ∧ (rule.operand? = none → rule.Named) := by
  have hparse := parseAll_of_configure h
  have hread := UpdateRule.parse_expression_of_parseAll hparse
  have hraws := UpdateRule.expression_of_parseAll hparse
  have htable := table_of_configure h
  have hreturning (columns : List String) (hcolumns : t.variant.returning? = some columns) :
      ∀ column ∈ columns, Text.isBlank column = false :=
    returning_of_configure h hcolumns
  refine ⟨?_, htable, t.fields.insert_named, t.fields.conflict_named, hreturning, ?_⟩
  · have hrules : (∀ rule ∈ t.rules, rule.Named) ↔
        ∀ raw ∈ t.fields.expression, ¬UpdateRule.HasBlankSegment raw := by
      rw [← hraws, List.forall_mem_map]
      exact forall₂_congr fun rule hrule => UpdateRule.named_iff_of_parse (hread rule hrule)
    rw [← hrules]
    constructor
    · intro hnamed
      exact hnamed.rules
    · intro hnamed
      exact ⟨htable, t.fields.insert_named, t.fields.conflict_named, hreturning, hnamed⟩
  · intro rule hrule
    exact UpdateRule.names_of_parse (hread rule hrule)

def balancedBy (raw : String) : FieldSet where
  insert := ["id", "balance"]
  conflict := ["id"]
  expression := [raw]
  insert_ne_nil := List.cons_ne_nil _ _
  insert_named := by decide
  conflict_named := by decide

def balancing (raw operand : String) : Template :=
  ⟨"accounts", balancedBy raw, .upsertExcluded, .questionMark, [.combine "balance" .add operand]⟩

theorem balancing_named_iff :
    configure "accounts" (balancedBy "balance+amount") .upsertExcluded .questionMark =
        .ok (balancing "balance+amount" "amount") ∧
      ∀ raw ∈ (balancing "balance+amount" "amount").fields.expression,
        ¬UpdateRule.HasBlankSegment raw := by
  have hconf : configure "accounts" (balancedBy "balance+amount") .upsertExcluded .questionMark =
      .ok (balancing "balance+amount" "amount") := rfl
  have hnamed : (balancing "balance+amount" "amount").Named := by
    refine ⟨by decide, by decide, by decide, nofun, ?_⟩
    intro rule hrule
    obtain rfl := List.mem_singleton.mp hrule
    exact ⟨by decide, fun _ hoperand => Option.some.inj hoperand ▸ by decide⟩
  exact ⟨hconf, (configure_named_iff hconf).1.mp hnamed⟩

/-- A blank name behind an operator is accepted, and is written to the text of the statement. -/
theorem balancing_blank_operand :
    configure "accounts" (balancedBy "balance+ ") .upsertExcluded .questionMark =
        .ok (balancing "balance+ " " ") ∧
      Text.isBlank " " = true ∧ ¬(balancing "balance+ " " ").Named ∧
      (balancing "balance+ " " ").text 1 =
        "INSERT INTO accounts (id, balance) VALUES (?, ?) ON CONFLICT (id) DO UPDATE SET " ++
          "balance = EXCLUDED.balance + accounts. " := by
  refine ⟨rfl, by decide, ?_, rfl⟩
  intro hnamed
  have hrule := hnamed.rules _ (List.mem_singleton_self _)
  exact absurd (hrule.operand " " rfl) (by decide)

end Template
end RowBatch
