import RowBatch.Statement.Template

/-!
Where the parts of a statement stand: the columns in the order of the configuration, and the marks
of the parameters in tuples, one tuple for each row.
-/

namespace RowBatch

namespace PlaceholderStyle

/-- The marks of a clause by row and column. -/
def marks (style : PlaceholderStyle) (columns rows : Nat) : List (List String) :=
  (List.range rows).map fun p => (List.range columns).map fun c =>
    style.placeholder (p * columns + c)

variable (style : PlaceholderStyle) (columns rows : Nat)

theorem valuesClause_eq_intercalate : style.valuesClause columns rows =
    String.intercalate ", " ((style.marks columns rows).map fun tuple =>
      "(" ++ String.intercalate ", " tuple ++ ")") := by
  simp [valuesClause, marks, tuple, Function.comp_def]

@[simp] theorem length_marks : (style.marks columns rows).length = rows := by
  simp [marks]

theorem length_of_mem_marks {tuple : List String} (h : tuple ∈ style.marks columns rows) :
    tuple.length = columns := by
  obtain ⟨p, _, rfl⟩ := List.mem_map.mp h
  simp

variable {columns rows}

/-- The mark in a column of a row is the mark of the parameter that is bound there. -/
theorem getElem?_marks {p c : Nat} (hp : p < rows) (hc : c < columns) :
    (style.marks columns rows)[p]?.bind (fun tuple => tuple[c]?) =
      some (style.placeholder (p * columns + c)) := by
  simp [marks, hp, hc]

end PlaceholderStyle

namespace Template

variable {table : String} {fields : FieldSet} {variant : Variant} {style : PlaceholderStyle}
  {t : Template}

theorem exists_rules_of_configure (h : configure table fields variant style = .ok t) :
    ∃ rules, rulesFor variant fields = .ok rules ∧ t = ⟨table, fields, variant, style, rules⟩ := by
  unfold configure at h
  split at h
  · exact nomatch h
  · obtain ⟨rules, hrules, rfl⟩ := ConfigError.map_eq_ok_iff.mp h
    exact ⟨rules, hrules, rfl⟩

theorem configure_eq_ok (h : configure table fields variant style = .ok t) :
    t.table = table ∧ t.fields = fields ∧ t.variant = variant ∧ t.style = style := by
  obtain ⟨rules, -, rfl⟩ := exists_rules_of_configure h
  exact ⟨rfl, rfl, rfl, rfl⟩

theorem text_eq_intercalate (t : Template) (rows : Nat) : t.text rows =
    "INSERT " ++ (if t.variant = .insertIgnore then "IGNORE " else "") ++ "INTO " ++ t.table ++
      " (" ++ String.intercalate ", " t.fields.insert ++ ") VALUES " ++
      String.intercalate ", " ((t.style.marks t.arity rows).map fun tuple =>
        "(" ++ String.intercalate ", " tuple ++ ")") ++ t.conflictClause := by
  rw [text, insertBody, PlaceholderStyle.valuesClause_eq_intercalate]
  simp only [decide_eq_true_eq]

end Template
end RowBatch
