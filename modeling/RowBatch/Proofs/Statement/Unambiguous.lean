import RowBatch.Proofs.Statement.Layout
import RowBatch.Proofs.Text.Unambiguous
import RowBatch.Proofs.Update.Language

/-!
What a statement with plain names is configured with can be told from its text: the assignments from
their clauses, and the number of rows from the marks of the parameters.
-/

namespace RowBatch

open Unambiguous (EndsName)

theorem Operator.isArithmetic_or_concat (operator : Operator) :
    operator.isArithmetic = true ∨ ∃ delimiter, operator = .concat delimiter := by
  cases operator <;> simp [isArithmetic]

theorem Operator.eq_of_symbol_eq {operator operator' : Operator}
    (h : operator.isArithmetic = true) (h' : operator'.isArithmetic = true)
    (hsymbol : operator.symbol = operator'.symbol) : operator = operator' := by
  cases operator <;> cases operator' <;> simp_all [isArithmetic, symbol]

namespace UpdateRule

def Identified (rule : UpdateRule) : Prop :=
  IsIdentifier rule.column ∧ ∀ operand, rule.operand? = some operand → IsIdentifier operand

section Clause

variable (d : Dialect) (table column operand : String)

theorem toList_clause_replace : (clause d table (.replace column)).toList =
    column.toList ++ (" = ".toList ++ (d.incoming column).toList) := by
  simp [clause]

theorem toList_clause_arithmetic {operator : Operator} (h : operator.isArithmetic = true) :
    (clause d table (.combine column operator operand)).toList =
      column.toList ++ (" = ".toList ++ ((d.incoming column).toList ++
        (' ' :: operator.symbol :: ' ' :: (table.toList ++ '.' :: operand.toList)))) := by
  cases operator with
  | concat _ => cases h
  | _ => simp [clause, Operator.symbol]

theorem toList_clause_concat (delimiter : Char) :
    (clause d table (.combine column (.concat delimiter) operand)).toList =
      column.toList ++ (" = ".toList ++ ("CONCAT_WS('".toList ++
        ((literalChar d delimiter).toList ++ ("', ".toList ++ ((d.incoming column).toList ++
          (", ".toList ++ (table.toList ++ '.' :: (operand.toList ++ [')'])))))))) := by
  simp [clause]

end Clause

variable {d : Dialect} {table : String}

theorem head?_literalChar (c : Char) : (literalChar d c).toList.head? = some c := by
  unfold literalChar
  split
  · simp_all
  · split
    · simp_all
    · simp

theorem literalChar_unambiguous {c c' : Char} {r s : List Char}
    (h : (literalChar d c).toList ++ r = (literalChar d c').toList ++ s) : c = c' := by
  have hhead := congrArg List.head? h
  rw [List.head?_append, List.head?_append, head?_literalChar, head?_literalChar] at hhead
  simpa using hhead

theorem incoming_ne_concat (column : String) (r s : List Char) :
    (d.incoming column).toList ++ r ≠ "CONCAT_WS('".toList ++ s := by
  cases d <;> simp [Dialect.incoming]

theorem endsName_paren (rest : List Char) : EndsName (')' :: rest) :=
  Unambiguous.endsName_of_head? (by decide) rfl

/-- What may follow a clause. -/
def EndsClause (cs : List Char) : Prop := cs = [] ∨ cs.head? = some ','

theorem EndsClause.endsName {cs : List Char} (h : EndsClause cs) : EndsName cs := by
  rcases h with rfl | h
  · exact Unambiguous.endsName_nil
  · exact Unambiguous.endsName_of_head? (by decide) h

theorem EndsClause.ne_blank {cs rest : List Char} (h : EndsClause cs) : cs ≠ ' ' :: rest := by
  rintro rfl
  simp [EndsClause] at h

theorem exists_clause_eq (d : Dialect) (table : String) (rule : UpdateRule) :
    ∃ assigned, (clause d table rule).toList =
      rule.column.toList ++ (" = ".toList ++ assigned) := by
  rcases rule with name | ⟨name, operator, operand⟩
  · exact ⟨_, toList_clause_replace d table name⟩
  · rcases operator.isArithmetic_or_concat with hkind | ⟨delimiter, rfl⟩
    · exact ⟨_, toList_clause_arithmetic d table name operand hkind⟩
    · exact ⟨_, toList_clause_concat d table name operand delimiter⟩

theorem column_eq_of_clause {rule rule' : UpdateRule} {r s : List Char} (hrule : Identified rule)
    (hrule' : Identified rule')
    (h : (clause d table rule).toList ++ r = (clause d table rule').toList ++ s) :
    rule.column = rule'.column := by
  obtain ⟨assigned, heq⟩ := exists_clause_eq d table rule
  obtain ⟨assigned', heq'⟩ := exists_clause_eq d table rule'
  have hblank (rest : List Char) : EndsName (" = ".toList ++ rest) :=
    Unambiguous.endsName_of_head? (c := ' ') (by decide) (by simp)
  simp only [heq, heq', List.append_assoc] at h
  exact (Unambiguous.identifier hrule.1 hrule'.1 (hblank _) (hblank _) h).1

theorem clause_replace_ne {column operand : String} {operator : Operator} {r s : List Char}
    (hr : EndsClause r) :
    (clause d table (.replace column)).toList ++ r ≠
      (clause d table (.combine column operator operand)).toList ++ s := by
  intro h
  rcases operator.isArithmetic_or_concat with hkind | ⟨delimiter, rfl⟩
  · simp only [toList_clause_replace, toList_clause_arithmetic _ _ _ _ hkind, List.append_assoc,
      List.append_cancel_left_eq, List.cons_append] at h
    exact hr.ne_blank h
  · simp only [toList_clause_replace, toList_clause_concat, List.append_assoc,
      List.append_cancel_left_eq] at h
    exact incoming_ne_concat _ _ _ h

theorem clause_arithmetic_ne_concat {column operand operand' : String} {operator : Operator}
    {delimiter : Char} {r s : List Char} (hkind : operator.isArithmetic = true) :
    (clause d table (.combine column operator operand)).toList ++ r ≠
      (clause d table (.combine column (.concat delimiter) operand')).toList ++ s := by
  intro h
  simp only [toList_clause_arithmetic _ _ _ _ hkind, toList_clause_concat, List.append_assoc,
    List.append_cancel_left_eq] at h
  exact incoming_ne_concat _ _ _ h

theorem clause_unambiguous (d : Dialect) (table : String) :
    Unambiguous (fun rule => (clause d table rule).toList) Identified EndsClause := by
  intro rule rule' r s hrule hrule' hr hs h
  have hcolumn := column_eq_of_clause hrule hrule' h
  rcases rule with name | ⟨name, operator, operand⟩ <;>
    rcases rule' with name' | ⟨name', operator', operand'⟩ <;>
    obtain rfl : name = name' := hcolumn
  · simp only [toList_clause_replace, List.append_assoc, List.append_cancel_left_eq] at h
    exact ⟨rfl, h⟩
  · exact absurd h (clause_replace_ne hr)
  · exact absurd h.symm (clause_replace_ne hs)
  · have ho : IsIdentifier operand := hrule.2 operand rfl
    have ho' : IsIdentifier operand' := hrule'.2 operand' rfl
    rcases operator.isArithmetic_or_concat with hkind | ⟨delimiter, rfl⟩ <;>
      rcases operator'.isArithmetic_or_concat with hkind' | ⟨delimiter', rfl⟩
    · simp only [toList_clause_arithmetic _ _ _ _ hkind, toList_clause_arithmetic _ _ _ _ hkind',
        List.append_assoc, List.append_cancel_left_eq, List.cons_append, List.cons.injEq,
        true_and] at h
      obtain rfl := Operator.eq_of_symbol_eq hkind hkind' h.1
      obtain ⟨rfl, hrest⟩ := Unambiguous.identifier ho ho' hr.endsName hs.endsName h.2
      exact ⟨rfl, hrest⟩
    · exact absurd h (clause_arithmetic_ne_concat hkind)
    · exact absurd h.symm (clause_arithmetic_ne_concat hkind')
    · -- Written twice or not, the delimiter is the first character of its literal.
      simp only [toList_clause_concat, List.append_assoc, List.append_cancel_left_eq,
        List.cons_append, List.nil_append] at h
      obtain rfl := literalChar_unambiguous h
      simp only [List.append_cancel_left_eq, List.cons.injEq, true_and] at h
      obtain ⟨rfl, hrest⟩ := Unambiguous.identifier ho ho' (endsName_paren r) (endsName_paren s) h
      exact ⟨rfl, List.tail_eq_of_cons_eq hrest⟩

end UpdateRule

namespace PlaceholderStyle

variable {style style' : PlaceholderStyle} {columns rows rows' : Nat} {r s : List Char}

def lead : PlaceholderStyle → Char
  | .questionMark => '?'
  | .numbered => '$'

theorem exists_placeholder_eq (style : PlaceholderStyle) (index : Nat) :
    ∃ digits, (style.placeholder index).toList = style.lead :: digits := by
  cases style <;> simp [placeholder, lead]

/-- What stands behind the first parenthesis of a clause tells the style of its marks. -/
theorem exists_valuesClause_eq (style : PlaceholderStyle) (hcolumns : 0 < columns)
    (hrows : 0 < rows) :
    ∃ rest, (style.valuesClause columns rows).toList = '(' :: style.lead :: rest := by
  obtain ⟨digits, hmark⟩ := exists_placeholder_eq style (0 * columns + 0)
  rw [valuesClause, Unambiguous.toList_intercalate_range _ hrows, tuple, String.toList_append,
    String.toList_append, Unambiguous.toList_intercalate_range _ hcolumns, hmark]
  simp

theorem valuesClause_unambiguous (hcolumns : 0 < columns) (hrows : 0 < rows) (hrows' : 0 < rows')
    (hr : r.head? ≠ some ',') (hs : s.head? ≠ some ',')
    (h : (style.valuesClause columns rows).toList ++ r =
      (style'.valuesClause columns rows').toList ++ s) :
    style = style' ∧ rows = rows' ∧ r = s := by
  have hstyle : style = style' := by
    obtain ⟨rest, heq⟩ := exists_valuesClause_eq style hcolumns hrows
    obtain ⟨rest', heq'⟩ := exists_valuesClause_eq style' hcolumns hrows'
    rw [heq, heq'] at h
    have hlead : style.lead = style'.lead := (List.cons.inj (List.cons.inj h).2).1
    cases style <;> cases style' <;> simp_all [lead]
  subst hstyle
  exact ⟨rfl, Unambiguous.intercalate_range hrows hrows' hr hs h⟩

end PlaceholderStyle

namespace Template

/-- The names in a statement need no quotes. -/
structure Identified (t : Template) : Prop where
  table : IsIdentifier t.table
  insert : ∀ column ∈ t.fields.insert, IsIdentifier column
  conflict : ∀ column ∈ t.fields.conflict, IsIdentifier column
  returning : ∀ columns, t.variant.returning? = some columns →
    ∀ column ∈ columns, IsIdentifier column
  rules : ∀ rule ∈ t.rules, rule.Identified

variable {table : String} {fields : FieldSet} {variant : Variant} {style : PlaceholderStyle}
  {t t' : Template}

theorem rulesFor_of_configure (h : configure table fields variant style = .ok t) :
    rulesFor t.variant t.fields = .ok t.rules := by
  obtain ⟨rules, hrules, rfl⟩ := exists_rules_of_configure h
  exact hrules

theorem upsertRules_eq_ok {kind : StatementKind} {rules : List UpdateRule}
    (h : upsertRules kind fields = .ok rules) :
    fields.conflict ≠ [] ∧ rules ≠ [] ∧ rules.map UpdateRule.expression = fields.expression ∧
      UpdateRule.parseAll fields.expression = .ok rules := by
  unfold upsertRules at h
  split at h
  · exact nomatch h
  · split at h
    · exact nomatch h
    · rename_i hconflict hexpression
      have hrules := UpdateRule.expression_of_parseAll h
      refine ⟨hconflict, ?_, hrules, h⟩
      rintro rfl
      exact hexpression hrules.symm

def conflictMark : StatementKind → String
  | .insertDoNothing => " ON CONFLICT D"
  | .insertIgnore => ""
  | .upsertExcluded => " ON CONFLICT ("
  | .upsertValues => " ON DUPLICATE "

theorem take_conflictClause (t : Template) :
    t.conflictClause.toList.take 14 = (conflictMark t.variant.kind).toList := by
  unfold conflictClause
  split <;> simp_all [conflictMark, Variant.kind]

theorem kind_eq_of_conflictClause (h : t.conflictClause = t'.conflictClause) :
    t.variant.kind = t'.variant.kind := by
  have hmark : conflictMark t.variant.kind = conflictMark t'.variant.kind := by
    rw [← String.toList_inj, ← take_conflictClause, ← take_conflictClause, h]
  cases hkind : t.variant.kind <;> cases hkind' : t'.variant.kind <;>
    simp_all [conflictMark]

theorem returning_unambiguous {returning returning' : List String}
    (hv : t.variant = .insertDoNothing returning) (hv' : t'.variant = .insertDoNothing returning')
    (hi : t.Identified) (hi' : t'.Identified) (h : t.conflictClause = t'.conflictClause) :
    returning = returning' := by
  have hr : ∀ column ∈ returning, IsIdentifier column := hi.returning _ (by rw [hv]; rfl)
  have hr' : ∀ column ∈ returning', IsIdentifier column := hi'.returning _ (by rw [hv']; rfl)
  rw [← String.toList_inj] at h
  rcases returning with _ | ⟨column, columns⟩ <;> rcases returning' with _ | ⟨column', columns'⟩
  · rfl
  · simp [conflictClause, hv, hv'] at h
  · simp [conflictClause, hv, hv'] at h
  · simp only [conflictClause, hv, hv', String.toList_append, List.append_cancel_left_eq] at h
    have hlists : (String.intercalate ", " (column :: columns)).toList ++ [] =
        (String.intercalate ", " (column' :: columns')).toList ++ [] := by
      simpa only [List.append_nil] using h
    exact (Unambiguous.lastNames ⟨List.cons_ne_nil _ _, hr⟩ ⟨List.cons_ne_nil _ _, hr'⟩ rfl rfl
      hlists).1

theorem clauses_unambiguous {d : Dialect} {rules rules' : List UpdateRule}
    (hne : rules ≠ []) (hne' : rules' ≠ []) (hr : ∀ rule ∈ rules, rule.Identified)
    (hr' : ∀ rule ∈ rules', rule.Identified)
    (h : String.intercalate ", " (rules.map (UpdateRule.clause d table)) =
      String.intercalate ", " (rules'.map (UpdateRule.clause d table))) : rules = rules' := by
  have hread := Unambiguous.intercalate (UpdateRule.clause_unambiguous d table)
    (by simp : ∀ r : List Char, r = [] → r.head? ≠ some ',')
  refine (hread ⟨hne, hr⟩ ⟨hne', hr'⟩ rfl rfl ?_).1
  simp only [h]

theorem upsertExcluded_unambiguous (hv : t.variant = .upsertExcluded)
    (hv' : t'.variant = .upsertExcluded) (hi : t.Identified) (hi' : t'.Identified)
    (hne : t.fields.conflict ≠ [] ∧ t.rules ≠ []) (hne' : t'.fields.conflict ≠ [] ∧ t'.rules ≠ [])
    (htable : t.table = t'.table) (h : t.conflictClause = t'.conflictClause) :
    t.fields.conflict = t'.fields.conflict ∧ t.rules = t'.rules := by
  rw [← String.toList_inj] at h
  simp only [conflictClause, clauses, hv, hv', ← htable, String.toList_append, List.append_assoc,
    List.append_cancel_left_eq] at h
  obtain ⟨hconflict, hrest⟩ := Unambiguous.namesInParens ⟨hne.1, hi.conflict⟩
    ⟨hne'.1, hi'.conflict⟩ (by simp) (by simp) h
  have hclauses := String.toList_inj.mp (List.append_cancel_left hrest)
  exact ⟨hconflict, clauses_unambiguous hne.2 hne'.2 hi.rules hi'.rules hclauses⟩

theorem upsertValues_unambiguous (hv : t.variant = .upsertValues) (hv' : t'.variant = .upsertValues)
    (hi : t.Identified) (hi' : t'.Identified) (hne : t.rules ≠ []) (hne' : t'.rules ≠ [])
    (htable : t.table = t'.table) (h : t.conflictClause = t'.conflictClause) :
    t.rules = t'.rules := by
  rw [← String.toList_inj] at h
  simp only [conflictClause, clauses, hv, hv', ← htable, String.toList_append,
    List.append_cancel_left_eq] at h
  exact clauses_unambiguous hne hne' hi.rules hi'.rules (String.toList_inj.mp h)

/-- What a statement does about a row that is already there can be told from its clause. -/
theorem conflictClause_unambiguous (hrules : rulesFor t.variant t.fields = .ok t.rules)
    (hrules' : rulesFor t'.variant t'.fields = .ok t'.rules) (hi : t.Identified)
    (hi' : t'.Identified) (htable : t.table = t'.table)
    (h : t.conflictClause = t'.conflictClause) :
    t.variant = t'.variant ∧
      (t.variant.kind.isUpsert = true → t.fields.expression = t'.fields.expression) ∧
      (t.variant = .upsertExcluded → t.fields.conflict = t'.fields.conflict) := by
  have hkind := kind_eq_of_conflictClause h
  cases hv : t.variant <;> cases hv' : t'.variant <;>
    simp only [hv, hv', Variant.kind, reduceCtorEq] at hkind
  case insertDoNothing returning returning' =>
    have hreturning := returning_unambiguous hv hv' hi hi' h
    exact ⟨congrArg _ hreturning, by simp [Variant.kind, StatementKind.isUpsert], by simp⟩
  case insertIgnore => exact ⟨rfl, by simp [Variant.kind, StatementKind.isUpsert], by simp⟩
  case upsertExcluded =>
    rw [hv] at hrules
    rw [hv'] at hrules'
    obtain ⟨hconflict, hne, hexpression, -⟩ := upsertRules_eq_ok hrules
    obtain ⟨hconflict', hne', hexpression', -⟩ := upsertRules_eq_ok hrules'
    obtain ⟨hsame, hrules⟩ := upsertExcluded_unambiguous hv hv' hi hi' ⟨hconflict, hne⟩
      ⟨hconflict', hne'⟩ htable h
    exact ⟨rfl, fun _ => by rw [← hexpression, ← hexpression', hrules], fun _ => hsame⟩
  case upsertValues =>
    rw [hv] at hrules
    rw [hv'] at hrules'
    obtain ⟨-, hne, hexpression, -⟩ := upsertRules_eq_ok hrules
    obtain ⟨-, hne', hexpression', -⟩ := upsertRules_eq_ok hrules'
    have hrules := upsertValues_unambiguous hv hv' hi hi' hne hne' htable h
    exact ⟨rfl, fun _ => by rw [← hexpression, ← hexpression', hrules], by simp⟩

/-- The table and the columns can be told from the head of a statement, which ends where the marks
of the parameters start. -/
theorem insertBody_unambiguous {table table' values values' : String}
    {columns columns' : List String} {ignore ignore' : Bool} {r s : List Char}
    (ht : IsIdentifier table) (ht' : IsIdentifier table')
    (hc : columns ≠ [] ∧ ∀ column ∈ columns, IsIdentifier column)
    (hc' : columns' ≠ [] ∧ ∀ column ∈ columns', IsIdentifier column)
    (h : (insertBody table columns ignore values).toList ++ r =
      (insertBody table' columns' ignore' values').toList ++ s) :
    table = table' ∧ columns = columns' ∧ values.toList ++ r = values'.toList ++ s := by
  have hignore : ignore = ignore' := by
    cases ignore <;> cases ignore' <;> simp [insertBody] at h ⊢
  simp only [insertBody, hignore, String.toList_append, List.append_assoc,
    List.append_cancel_left_eq] at h
  obtain ⟨htable, hrest⟩ := Unambiguous.identifier ht ht'
    (Unambiguous.endsName_of_head? (c := ' ') (by decide) (by simp))
    (Unambiguous.endsName_of_head? (c := ' ') (by decide) (by simp)) h
  obtain ⟨hcolumns, hrest⟩ := Unambiguous.namesInParens hc hc' (by simp) (by simp)
    (List.append_cancel_left hrest)
  exact ⟨htable, hcolumns, List.append_cancel_left hrest⟩

theorem head?_conflictClause_ne (t : Template) : t.conflictClause.toList.head? ≠ some ',' := by
  unfold conflictClause
  split <;> simp

/-- The text of a statement tells everything in it. Statements that are equal as texts have the same
rows, table, columns, marks and kind, and as far as their kind has them, the same returned columns,
expressions and conflicting columns. -/
theorem text_determines {table table' : String} {fields fields' : FieldSet}
    {variant variant' : Variant} {style style' : PlaceholderStyle} {t t' : Template}
    {rows rows' : Nat} (hconf : configure table fields variant style = .ok t)
    (hconf' : configure table' fields' variant' style' = .ok t') (hi : t.Identified)
    (hi' : t'.Identified) (hrows : 1 ≤ rows) (hrows' : 1 ≤ rows')
    (h : t.text rows = t'.text rows') :
    rows = rows' ∧ table = table' ∧ fields.insert = fields'.insert ∧ style = style' ∧
      variant = variant' ∧
      (variant.kind.isUpsert = true → fields.expression = fields'.expression) ∧
      (variant = .upsertExcluded → fields.conflict = fields'.conflict) := by
  have hrules := rulesFor_of_configure hconf
  have hrules' := rulesFor_of_configure hconf'
  obtain ⟨rfl, rfl, rfl, rfl⟩ := configure_eq_ok hconf
  obtain ⟨rfl, rfl, rfl, rfl⟩ := configure_eq_ok hconf'
  have htext : (t.text rows).toList = (t'.text rows').toList := by rw [h]
  simp only [text, String.toList_append] at htext
  obtain ⟨htable, hinsert, hvalues⟩ := insertBody_unambiguous hi.table hi'.table
    ⟨t.fields.insert_ne_nil, hi.insert⟩ ⟨t'.fields.insert_ne_nil, hi'.insert⟩ htext
  have harity : t'.arity = t.arity := by simp only [arity, FieldSet.arity, hinsert]
  rw [harity] at hvalues
  obtain ⟨hstyle, hsame, hclause⟩ := PlaceholderStyle.valuesClause_unambiguous t.fields.arity_pos
    hrows hrows' t.head?_conflictClause_ne t'.head?_conflictClause_ne hvalues
  obtain ⟨hvariant, hexpression, hconflict⟩ := conflictClause_unambiguous hrules hrules' hi hi'
    htable (String.toList_inj.mp hclause)
  exact ⟨hsame, htable, hinsert, hstyle, hvariant, hexpression, hconflict⟩

def taggedBy (key : String) (hkey : Text.isBlank key = false) : FieldSet where
  insert := ["id", "tags"]
  conflict := [key]
  expression := ["tags|topic|'"]
  insert_ne_nil := List.cons_ne_nil _ _
  insert_named := by decide
  conflict_named := by simpa using hkey

/-- A statement whose kind does not name the key. -/
def tagging (key : String) (hkey : Text.isBlank key = false) : Template :=
  ⟨"posts", taggedBy key hkey, .upsertValues, .numbered,
    [.combine "tags" (.concat '\x27') "topic"]⟩

theorem tagging_identified {key : String} (hkey : Text.isBlank key = false)
    (hname : IsIdentifier key) : (tagging key hkey).Identified where
  table := (by decide : IsIdentifier "posts")
  insert := (by decide : ∀ column ∈ ["id", "tags"], IsIdentifier column)
  conflict := by simpa [tagging, taggedBy] using hname
  returning := by simp [tagging, Variant.returning?]
  rules := by
    have hnames : IsIdentifier "tags" ∧ IsIdentifier "topic" := by decide
    simpa [tagging, UpdateRule.Identified, UpdateRule.column, UpdateRule.operand?] using hnames

theorem tagging_text_determines :
    ∃ fields fields' : FieldSet, fields.conflict ≠ fields'.conflict ∧ ∃ t t',
      configure "posts" fields .upsertValues .numbered = .ok t ∧
      configure "posts" fields' .upsertValues .numbered = .ok t' ∧
      t.Identified ∧ t'.Identified ∧ 1 ≤ 2 ∧ t.text 2 = t'.text 2 ∧
      fields.insert = fields'.insert ∧ fields.expression = fields'.expression := by
  have hid : Text.isBlank "id" = false := by decide
  have htags : Text.isBlank "tags" = false := by decide
  have hconf : configure "posts" (taggedBy "id" hid) .upsertValues .numbered =
      .ok (tagging "id" hid) := rfl
  have hconf' : configure "posts" (taggedBy "tags" htags) .upsertValues .numbered =
      .ok (tagging "tags" htags) := rfl
  have hnames := tagging_identified hid (by decide)
  have hnames' := tagging_identified htags (by decide)
  have htext : (tagging "id" hid).text 2 = (tagging "tags" htags).text 2 := rfl
  have htold := text_determines hconf hconf' hnames hnames' (by decide) (by decide) htext
  exact ⟨_, _, by simp [taggedBy], _, _, hconf, hconf', hnames, hnames', by decide, htext,
    htold.2.2.1, htold.2.2.2.2.2.1 rfl⟩

end Template
end RowBatch
