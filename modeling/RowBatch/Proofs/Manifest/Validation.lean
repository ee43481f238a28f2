import RowBatch.Manifest.Basic
import RowBatch.Proofs.Statement.Layout

/-!
What is wrong with the description of a batch, in one list in the order of precedence. A writer is
refused just when the list is not empty, for the first fault in it, and before the executor is asked
for anything.
-/

namespace RowBatch

def UpdateRule.fault? (raw : String) : Option ConfigError :=
  match parse raw with
  | .error cause => some cause
  | .ok _ => none

/-- A computation fails just when there are faults, with the first of them. -/
def FailsWith {α : Type} (x : Except ConfigError α) (faults : List ConfigError) : Prop :=
  ∀ cause, x = .error cause ↔ faults.head? = some cause

def faultIf (reason : Prop) [Decidable reason] (cause : ConfigError) : List ConfigError :=
  if reason then [cause] else []

namespace FailsWith

variable {α β : Type} {x : Except ConfigError α} {cause : ConfigError}
  {faults more : List ConfigError}

theorem ok (a : α) : FailsWith (.ok a) [] := by
  intro cause
  simp

theorem error : FailsWith (.error cause : Except ConfigError α) (cause :: faults) := by
  intro other
  simp

theorem of_nil (h : FailsWith x []) : ∃ a, x = .ok a := by
  cases x with
  | error cause => simpa using h cause
  | ok a => exact ⟨a, rfl⟩

theorem check {reason : Prop} [Decidable reason] {x : ¬reason → Except ConfigError α}
    (h : ∀ hnot, FailsWith (x hnot) faults) :
    FailsWith (if hreason : reason then .error cause else x hreason)
      (faultIf reason cause ++ faults) := by
  by_cases hreason : reason
  · simpa [faultIf, hreason] using error
  · simpa [faultIf, hreason] using h hreason

theorem check_only {reason : Prop} [Decidable reason] {x : ¬reason → α} :
    FailsWith (if hreason : reason then .error cause else .ok (x hreason)) (faultIf reason cause) :=
  List.append_nil (faultIf reason cause) ▸ check fun _ => .ok _

theorem require {need : Prop} [Decidable need] (h : need → FailsWith x faults) :
    FailsWith (if need then x else .error cause) (faultIf (¬need) cause ++ faults) := by
  by_cases hneed : need
  · simpa [faultIf, hneed] using h hneed
  · simpa [faultIf, hneed] using error

theorem bind {f : α → Except ConfigError β} (hx : FailsWith x faults)
    (hf : ∀ a, x = .ok a → FailsWith (f a) more) : FailsWith (x >>= f) (faults ++ more) := by
  cases faults with
  | nil =>
    obtain ⟨a, rfl⟩ := hx.of_nil
    exact hf a rfl
  | cons first rest =>
    obtain rfl : x = .error first := (hx first).mpr rfl
    exact error

theorem map (f : α → β) (hx : FailsWith x faults) : FailsWith (x.map f) faults := by
  intro cause
  rw [← hx cause]
  cases x <;> simp [Except.map]

end FailsWith

theorem UpdateRule.parse_failsWith (raw : String) :
    FailsWith (parse raw) (fault? raw).toList := by
  intro cause
  unfold fault?
  cases parse raw <;> simp

theorem UpdateRule.parseAll_failsWith (raws : List String) :
    FailsWith (parseAll raws) (raws.filterMap fault?) := by
  induction raws with
  | nil => exact .ok []
  | cons raw raws ih =>
    have hall : FailsWith (parseAll (raw :: raws)) ((fault? raw).toList ++ raws.filterMap fault?) :=
      (parse_failsWith raw).bind fun rule _ =>
        List.append_nil (raws.filterMap fault?) ▸ ih.bind fun rules _ => .ok (rule :: rules)
    have hlist : (raw :: raws).filterMap fault? = (fault? raw).toList ++ raws.filterMap fault? := by
      cases h : fault? raw <;> simp [h]
    rwa [hlist]

variable {list : FieldList} {columns insert conflict expression returning : List String}

theorem checkNamed_failsWith : FailsWith (checkNamed list columns)
    (faultIf (columns.any Text.isBlank) (.emptyColumnName list)) :=
  .check_only

theorem FieldSet.ofLists_failsWith : FailsWith (ofLists insert conflict expression)
    (faultIf (insert = []) .emptyInsertFields ++
      (faultIf (insert.any Text.isBlank) (.emptyColumnName .insert) ++
        faultIf (conflict.any Text.isBlank) (.emptyColumnName .conflict))) :=
  .check fun _ => .check fun _ => .check_only

theorem FieldSet.ofLists_eq_ok {f : FieldSet} (h : ofLists insert conflict expression = .ok f) :
    f.insert = insert ∧ f.conflict = conflict ∧ f.expression = expression := by
  unfold ofLists at h
  split at h
  · exact nomatch h
  · split at h
    · exact nomatch h
    · split at h
      · exact nomatch h
      · obtain rfl := Except.ok.inj h
        exact ⟨rfl, rfl, rfl⟩

theorem Template.upsertRules_failsWith (kind : StatementKind) (f : FieldSet) :
    FailsWith (upsertRules kind f)
      (faultIf (f.conflict = []) (.missingConflictFields kind) ++
        (faultIf (f.expression = []) (.missingExpressionFields kind) ++
          f.expression.filterMap UpdateRule.fault?)) :=
  .check fun _ => .check fun _ => UpdateRule.parseAll_failsWith _

namespace Manifest

variable (m : Manifest)

/-- What is wrong with the columns of a statement of some kind. -/
def statementFaults : List ConfigError :=
  match m.statement with
  | .insertDoNothing =>
    faultIf (m.expressionFields ≠ []) (.expressionsNotSupported m.statement) ++
      faultIf (m.returnFields.any Text.isBlank) (.emptyColumnName .returning)
  | .insertIgnore => faultIf (m.expressionFields ≠ []) (.expressionsNotSupported m.statement)
  | .upsertExcluded | .upsertValues =>
    faultIf (m.conflictFields = []) (.missingConflictFields m.statement) ++
      (faultIf (m.expressionFields = []) (.missingExpressionFields m.statement) ++
        m.expressionFields.filterMap UpdateRule.fault?)

/-- Everything that is wrong with a manifest, in the order in which it is looked for. -/
def faults : List ConfigError :=
  faultIf (m.insertFields = []) .emptyInsertFields ++
    faultIf (m.insertFields.any Text.isBlank) (.emptyColumnName .insert) ++
    faultIf (m.conflictFields.any Text.isBlank) (.emptyColumnName .conflict) ++
    faultIf (m.statement ≠ .insertDoNothing ∧ m.returnFields ≠ [])
      (.returningNotSupported m.statement) ++
    faultIf (m.operationsPerStatement = 0) .invalidBatchSize ++
    faultIf (Text.isBlank m.table) .emptyTableName ++ m.statementFaults

def template (style : PlaceholderStyle) : Except ConfigError Template := do
  let fields ← m.fieldSet
  let variant ← m.variant
  if m.operationsPerStatement = 0 then .error .invalidBatchSize
  else Template.configure m.table fields variant style

theorem variant_eq_ok {variant : Variant} (h : m.variant = .ok variant) :
    variant = (match m.statement with
      | .insertDoNothing => .insertDoNothing m.returnFields
      | .insertIgnore => .insertIgnore
      | .upsertExcluded => .upsertExcluded
      | .upsertValues => .upsertValues) := by
  unfold Manifest.variant at h
  split at h
  · exact nomatch h
  · exact (Except.ok.inj h).symm

theorem variant_failsWith : FailsWith m.variant
    (faultIf (m.statement ≠ .insertDoNothing ∧ m.returnFields ≠ [])
      (.returningNotSupported m.statement)) :=
  .check_only

theorem rulesFor_failsWith {fields : FieldSet} {variant : Variant}
    (hfields : m.fieldSet = .ok fields) (hvariant : m.variant = .ok variant) :
    FailsWith (Template.rulesFor variant fields) m.statementFaults := by
  obtain ⟨-, hconflict, hexpression⟩ := FieldSet.ofLists_eq_ok hfields
  obtain rfl := m.variant_eq_ok hvariant
  unfold statementFaults Template.rulesFor
  cases m.statement with
  | insertDoNothing =>
    rw [hexpression]
    exact .require fun _ => checkNamed_failsWith.map _
  | insertIgnore =>
    rw [hexpression, ← List.append_nil (faultIf _ _)]
    exact .require fun _ => .ok []
  | upsertExcluded =>
    simpa only [hconflict, hexpression] using Template.upsertRules_failsWith .upsertExcluded fields
  | upsertValues =>
    simpa only [hconflict, hexpression] using Template.upsertRules_failsWith .upsertValues fields

theorem template_failsWith (style : PlaceholderStyle) : FailsWith (m.template style) m.faults := by
  have hconfigure (fields : FieldSet) (hfields : m.fieldSet = .ok fields) (variant : Variant)
      (hvariant : m.variant = .ok variant) :
      FailsWith (if m.operationsPerStatement = 0 then .error .invalidBatchSize
          else Template.configure m.table fields variant style)
        (faultIf (m.operationsPerStatement = 0) .invalidBatchSize ++
          (faultIf (Text.isBlank m.table) .emptyTableName ++ m.statementFaults)) :=
    .check fun _ => .check fun _ => (m.rulesFor_failsWith hfields hvariant).map _
  have hall := FieldSet.ofLists_failsWith.bind fun fields hfields =>
    m.variant_failsWith.bind (hconfigure fields hfields)
  rw [faults]
  simp only [List.append_assoc] at hall ⊢
  exact hall

/-- A statement that a manifest configures: it is about the table and the columns that are named
there. -/
structure Configures (style : PlaceholderStyle) (t : Template) : Prop where
  table_eq : t.table = m.table
  insert_eq : t.fields.insert = m.insertFields
  conflict_eq : t.fields.conflict = m.conflictFields
  expression_eq : t.fields.expression = m.expressionFields
  variant_ok : m.variant = .ok t.variant
  template_ok : Template.configure t.table t.fields t.variant style = .ok t

theorem configures_of_template {style : PlaceholderStyle} {t : Template}
    (h : m.template style = .ok t) : m.Configures style t := by
  obtain ⟨fields, hfields, h⟩ := ConfigError.bind_eq_ok_iff.mp h
  obtain ⟨variant, hvariant, h⟩ := ConfigError.bind_eq_ok_iff.mp h
  split at h
  · exact nomatch h
  · obtain ⟨htable, rfl, rfl, -⟩ := Template.configure_eq_ok h
    obtain ⟨hinsert, hconflict, hexpression⟩ := FieldSet.ofLists_eq_ok hfields
    exact ⟨htable, hinsert, hconflict, hexpression, hvariant, htable ▸ h⟩

variable {σ η ε : Type} (e : Executor σ η ε) (s : σ)

def writerOf (t : Template) : Writer.Outcome σ ε (Writer η) :=
  let rows := m.operationsPerStatement.toNat
  match e.prepare s (t.text rows) with
  | (s, .error cause) => ⟨s, .error (.execution cause), [.preparing rows (t.text rows)]⟩
  | (s, .ok statement) =>
    ⟨s, .ok (.fresh ⟨t, rows, statement, t.text rows⟩),
      [.preparing rows (t.text rows), .configured t.variant.kind m.table rows]⟩

/-- A writer is configured in two parts, of which only the second needs the executor. -/
theorem writer_eq : m.writer e s =
    match m.template e.style with
    | .error cause => ⟨s, .error (.configuration cause), []⟩
    | .ok t => m.writerOf e s t := by
  unfold writer template
  cases m.fieldSet with
  | error cause => rfl
  | ok fields =>
    cases m.variant with
    | error cause => rfl
    | ok variant =>
      have hrows : m.operationsPerStatement.toNat = 0 ↔ m.operationsPerStatement = 0 := by
        rw [← UInt64.toNat_inj]
        rfl
      by_cases hzero : m.operationsPerStatement = 0
      · simp [Writer.configure, hzero, bind, Except.bind]
      · cases htemplate : Template.configure m.table fields variant e.style with
        | error cause => simp [Writer.configure, hrows, hzero, bind, Except.bind, htemplate]
        | ok t =>
          simp only [Writer.configure, hrows, hzero, bind, Except.bind, htemplate, if_false]
          rfl

theorem writer_of_fault {cause : ConfigError} (h : m.faults.head? = some cause) :
    m.writer e s = ⟨s, .error (.configuration cause), []⟩ := by
  rw [writer_eq, (m.template_failsWith e.style cause).mpr h]

theorem writer_of_faultless (h : m.faults = []) :
    ∃ t, m.Configures e.style t ∧ m.writer e s = m.writerOf e s t ∧
      m.writer e.recorded (s, []) = m.writerOf e.recorded (s, []) t := by
  have hchecked := m.template_failsWith e.style
  rw [h] at hchecked
  obtain ⟨t, htemplate⟩ := hchecked.of_nil
  refine ⟨t, m.configures_of_template htemplate, ?_, ?_⟩
  · rw [writer_eq, htemplate]
  · have hrecorded : m.template e.recorded.style = .ok t := htemplate
    rw [writer_eq, hrecorded]

/-- A manifest is refused for the first of its faults, and without a call to the executor. Without
a fault, the statement for a full batch is prepared once, and the answer decides. -/
theorem writer_refused_iff :
    (m.writer e s).result = (m.writer e.recorded (s, [])).result ∧
    (∀ cause, (m.writer e.recorded (s, [])).result = .error (.configuration cause) ↔
      m.faults.head? = some cause) ∧
    (m.faults ≠ [] → (m.writer e.recorded (s, [])).state = (s, [])) ∧
    (m.faults = [] → ∃ (t : Template) (s' : σ) (answer : Except ε η),
      m.Configures e.style t ∧
      e.prepare s (t.text m.operationsPerStatement.toNat) = (s', answer) ∧
      (m.writer e.recorded (s, [])).state =
        (s', [.prepare (t.text m.operationsPerStatement.toNat) answer]) ∧
      (m.writer e.recorded (s, [])).result =
        match answer with
        | .error cause => .error (.execution cause)
        | .ok statement =>
          .ok (.fresh ⟨t, m.operationsPerStatement.toNat, statement,
            t.text m.operationsPerStatement.toNat⟩)) := by
  cases hfaults : m.faults with
  | cons first rest =>
    have hfirst : m.faults.head? = some first := by rw [hfaults, List.head?_cons]
    simp [writer_of_fault _ _ _ hfirst]
  | nil =>
    obtain ⟨t, hconfigures, hplain, hrecorded⟩ := m.writer_of_faultless e s hfaults
    rcases hprep : e.prepare s (t.text m.operationsPerStatement.toNat) with ⟨s', answer⟩
    rw [hplain, hrecorded]
    refine ⟨?_, ?_, fun hne => absurd rfl hne, fun _ => ⟨t, s', answer, hconfigures, hprep, ?_, ?_⟩⟩
    all_goals cases answer <;> simp [writerOf, Executor.recorded, hprep]

/-- Six faults at once, of which the first counts. -/
example : faults ⟨" ", 0, .upsertValues, ["id", ""], [], ["balance+", "name"], ["id"]⟩ =
    [.emptyColumnName .insert, .returningNotSupported .upsertValues, .invalidBatchSize,
      .emptyTableName, .missingConflictFields .upsertValues,
      .malformedExpression "balance+" .missingReference] := by
  decide

end Manifest
end RowBatch
