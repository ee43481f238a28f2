import RowBatch.Executor
import RowBatch.Proofs.Statement.Layout
import RowBatch.Proofs.Writer.Ledger
import RowBatch.Proofs.Writer.Session

/-!
The order of the calls to an executor, and what every execution is given. The text of a statement and
the parameters come from different places; they agree on the number of rows and on the place of every
value.
-/

namespace RowBatch

/-- The parameters are those of `rows`: the value in a column of a row stands where the statement has
the mark of that column and row. -/
structure Row.Aligned (width : Nat) (rows : List Row) (parameters : List Value) : Prop where
  length_eq : parameters.length = rows.length * width
  value_eq : ∀ p < rows.length, ∀ c < width, ∃ value,
    rows[p]?.bind (fun row => row[c]?) = some value ∧ parameters[p * width + c]? = some value

theorem Row.aligned_flatten {width : Nat} {rows : List Row} (hr : ∀ row ∈ rows, row.length = width) :
    Row.Aligned width rows rows.flatten where
  length_eq := Row.length_flatten hr
  value_eq := by
    intro p hp c hc
    have hlen : rows[p].length = width := hr _ (List.getElem_mem hp)
    have hcolumn : c < rows[p].length := hlen ▸ hc
    have hrow : rows[p]?.bind (fun row => row[c]?) = some rows[p][c] := by
      simp [List.getElem?_eq_getElem hp]
    exact ⟨_, hrow, (Row.getElem?_flatten hr p hc).trans hrow⟩

namespace Writer

open Journal

variable {σ η ε : Type} {t : Template} {batchSize : Nat} {statement : η}

/-- The journals of a writer whose statement for a full batch is prepared. Each round is an execution
of that statement, a refused preparation of a smaller one, or a preparation and, right after it, the
one execution of what was prepared; and an execution is given the rows that wait. -/
inductive Protocol (t : Template) (batchSize : Nat) (statement : η) : List (Entry η ε) → Prop
  | start : Protocol t batchSize statement []
  | accepted {j row} (hpast : Protocol t batchSize statement j) :
      Protocol t batchSize statement (j ++ [.accepted row])
  | reset {j} (hpast : Protocol t batchSize statement j) :
      Protocol t batchSize statement (j ++ [.reset])
  | batch {j parameters answer} (hpast : Protocol t batchSize statement j)
      (hrows : (waiting j).length = batchSize)
      (haligned : Row.Aligned t.arity (waiting j) parameters) :
      Protocol t batchSize statement (j ++ [.called (.execute statement parameters answer)])
  | refused {j rows cause} (hpast : Protocol t batchSize statement j)
      (hpos : 0 < rows) (hlt : rows < batchSize) :
      Protocol t batchSize statement
        (j ++ [.called (.prepareTransient (t.text rows) (.error cause))])
  | rest {j rows transient parameters answer} (hpast : Protocol t batchSize statement j)
      (hpos : 0 < rows) (hlt : rows < batchSize) (hrows : (waiting j).length = rows)
      (haligned : Row.Aligned t.arity (waiting j) parameters) :
      Protocol t batchSize statement
        (j ++ [.called (.prepareTransient (t.text rows) (.ok transient)),
          .called (.execute transient parameters answer)])

namespace Protocol

variable {j : List (Entry η ε)}

theorem prepare_not_mem (h : Protocol t batchSize statement j) (text : String)
    (answer : Except ε η) : .prepare text answer ∉ calls j := by
  induction h with
  | start => simp
  | accepted _ ih => simpa using ih
  | reset _ ih => simpa using ih
  | batch _ _ _ ih => simpa using ih
  | refused _ _ _ ih => simpa using ih
  | rest _ _ _ _ _ ih => simpa using ih

theorem parameters_ne_nil (h : Protocol t batchSize statement j) (hpos : 0 < batchSize) {x : η}
    {parameters : List Value} {answer : Except ε UInt64}
    (hmem : .execute x parameters answer ∈ calls j) : parameters ≠ [] := by
  have hwidth : 0 < t.arity := t.fields.arity_pos
  have hsome {rows : List Row} {ps : List Value} (ha : Row.Aligned t.arity rows ps)
      (hrows : 0 < rows.length) : ps ≠ [] := by
    have hlen := ha.length_eq
    have hprod := Nat.mul_pos hrows hwidth
    exact List.ne_nil_of_length_pos (hlen ▸ hprod)
  induction h with
  | start => simp at hmem
  | accepted _ ih => exact ih (by simpa using hmem)
  | reset _ ih => exact ih (by simpa using hmem)
  | batch _ hrows haligned ih =>
    obtain hmem | ⟨-, rfl, -⟩ := by simpa using hmem
    · exact ih hmem
    · exact hsome haligned (hrows ▸ hpos)
  | refused _ _ _ ih => exact ih (by simpa using hmem)
  | rest _ hrest _ hrows haligned ih =>
    obtain hmem | ⟨-, rfl, -⟩ := by simpa using hmem
    · exact ih hmem
    · exact hsome haligned (hrows ▸ hrest)

end Protocol

theorem Ledger.aligned {j : List (Entry η ε)} {w : Writer η} (h : Ledger j w) :
    Row.Aligned w.arity (waiting j) w.parameters :=
  h.parameters_eq ▸ Row.aligned_flatten h.width_eq

theorem Exec.protocol {e : Executor σ η ε} {s s' : σ} {u : Setup η} {w' : Writer η}
    {j : List (Entry η ε)} (h : Exec e s (fresh u) j s' w') :
    Protocol u.template u.batchSize u.statement j := by
  induction h with
  | refl => exact .start
  | @tail j s' w' entries s'' w'' hexec hmove ih =>
    have hledger := hexec.ledger
    have hsetup : w'.toSetup = u := hexec.toSetup_eq
    subst hsetup
    have hle := hledger.pending_le
    cases hmove with
    | taken => exact ih.accepted
    | batch hfull _ => exact ih.batch (hledger.pending_eq ▸ hfull) hledger.aligned
    | refused hsome hroom _ => exact ih.refused (by omega) (by omega)
    | rest hsome hroom _ _ =>
      exact ih.rest (by omega) (by omega) hledger.pending_eq.symm hledger.aligned
    | reset => exact ih.reset

/-- The calls of a run, and the parameters and the text of every statement that they execute. -/
theorem calls_follow_protocol {e : Executor σ η ε} {s : σ} {batchSize : Nat} {table : String}
    {fields : FieldSet} {variant : Variant} {operations : List Operation} {h : History σ η ε}
    (hrun : session e s batchSize table fields variant operations = .ok h) :
    h.calls = .prepare (h.writer.template.text batchSize) (.ok h.writer.statement) ::
        calls h.journal ∧
      Protocol h.writer.template batchSize h.writer.statement h.journal ∧
      (∀ text answer, .prepare text answer ∉ calls h.journal) ∧
      (∀ statement parameters answer, .execute statement parameters answer ∈ h.calls →
        parameters ≠ []) ∧
      h.writer.arity = fields.arity ∧
      ∀ rows, ∃ tuples : List (List String),
        h.writer.template.text rows =
          "INSERT " ++ (if variant = .insertIgnore then "IGNORE " else "") ++ "INTO " ++ table ++
            " (" ++ String.intercalate ", " fields.insert ++ ") VALUES " ++
            String.intercalate ", " (tuples.map fun tuple =>
              "(" ++ String.intercalate ", " tuple ++ ")") ++ h.writer.template.conflictClause ∧
        tuples.length = rows ∧ (∀ tuple ∈ tuples, tuple.length = fields.arity) ∧
        ∀ p < rows, ∀ c < fields.arity, tuples[p]?.bind (fun tuple => tuple[c]?) =
          some (e.style.placeholder (p * fields.arity + c)) := by
  obtain ⟨s₀, hopened, hexec⟩ := session_exec hrun
  have hcalls := session_calls hrun
  have hprotocol := hexec.protocol
  obtain ⟨htable, hfields, hvariant, hstyle⟩ := Template.configure_eq_ok hopened.template_ok
  obtain rfl := hopened.batchSize_eq
  have harity : h.writer.template.arity = fields.arity := by rw [Template.arity, hfields]
  rw [hopened.text_eq] at hcalls
  refine ⟨hcalls, hprotocol, hprotocol.prepare_not_mem, ?_, harity, ?_⟩
  · intro statement parameters answer hmem
    rw [hcalls] at hmem
    exact hprotocol.parameters_ne_nil hopened.batchSize_pos (by simpa using hmem)
  · intro rows
    have htext := h.writer.template.text_eq_intercalate rows
    rw [htable, hfields, hvariant, hstyle, harity] at htext
    refine ⟨e.style.marks fields.arity rows, htext, e.style.length_marks _ _, ?_, ?_⟩
    · intro tuple htuple
      exact e.style.length_of_mem_marks _ _ htuple
    · intro p hp c hc
      exact e.style.getElem?_marks hp hc

/-- Two failed executions of a full batch, and a smaller one that is refused and then written. -/
def twoBatches : Except (BatchError String) (History Script String String) :=
  session (Script.executor .numbered)
    ⟨[.ok (), .error "no statement"], [.error "locked", .error "locked", .ok 2]⟩ 2 "users" users
    .insertIgnore
    [.queue [.int 1, .text "a"], .queue [.int 2, .null], .flush, .queue [.int 3, .text "b"], .flush,
      .flush]

theorem twoBatches_follow_protocol : ∃ h, twoBatches = .ok h ∧ (calls h.journal).length = 6 ∧
    Protocol h.writer.template 2 h.writer.statement h.journal ∧
    (∀ text answer, .prepare text answer ∉ calls h.journal) ∧
    h.writer.template.text 2 =
      "INSERT IGNORE INTO users (id, name) VALUES ($1, $2), ($3, $4)" := by
  have hrun : twoBatches = .ok _ := rfl
  obtain ⟨_, hprotocol, honce, _⟩ := calls_follow_protocol hrun
  exact ⟨_, hrun, by decide, hprotocol, honce, by decide⟩

end Writer
end RowBatch
