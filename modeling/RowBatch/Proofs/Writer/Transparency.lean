import RowBatch.Proofs.Writer.Ledger
import RowBatch.Proofs.Writer.Session

/-!
Writing in batches does what writing row by row does. On a database that puts in the rows of a
statement one after the other, or none of them, the size of the batches, the flushes and the failures
leave no trace once nothing waits.
-/

namespace RowBatch

variable {σ η ε δ : Type}

namespace Executor

def Prepared (e : Executor σ η ε) (text : String) (statement : η) : Prop :=
  ∃ s s', e.prepare s text = (s', .ok statement) ∨ e.prepareTransient s text = (s', .ok statement)

/-- The executor keeps a database, and `put` is what one row of the statement does to it. A
statement for some rows, executed with their values, puts the rows in order or fails and changes
nothing, and preparing a statement changes nothing. -/
structure RowSequential (e : Executor σ η ε) (t : Template) (database : σ → δ)
    (put : δ → Row → δ) : Prop where
  prepare_eq : ∀ s rows, database (e.prepare s (t.text rows)).1 = database s
  prepareTransient_eq : ∀ s rows, database (e.prepareTransient s (t.text rows)).1 = database s
  execute_error : ∀ s s' rows statement parameters cause, 0 < rows →
    e.Prepared (t.text rows) statement → parameters.length = rows * t.arity →
    e.execute s statement parameters = (s', .error cause) → database s' = database s
  execute_ok : ∀ s s' rows statement parameters count, 0 < rows →
    e.Prepared (t.text rows) statement → parameters.length = rows * t.arity →
    e.execute s statement parameters = (s', .ok count) →
    database s' = (Row.slices t.arity parameters).foldl put (database s)

theorem RowSequential.database_prepareTransient {e : Executor σ η ε} {t : Template}
    {database : σ → δ} {put : δ → Row → δ} (he : e.RowSequential t database put) {s s' : σ}
    {rows : Nat} {answer : Except ε η}
    (hprep : e.prepareTransient s (t.text rows) = (s', answer)) : database s' = database s := by
  have hsame := he.prepareTransient_eq s rows
  rwa [hprep] at hsame

/-- An executor whose state is a database and the list of the executions that will fail. -/
def onDatabase (width : Nat) (put : δ → Row → δ) : Executor (δ × List Bool) String String where
  style := .questionMark
  prepare := fun s text => (s, .ok text)
  prepareTransient := fun s text => (s, .ok text)
  execute := fun (database, failures) _ parameters =>
    if failures.headD false then ((database, failures.tail), .error "locked")
    else
      let rows := Row.slices width parameters
      ((rows.foldl put database, failures.tail), .ok (UInt64.ofNat rows.length))

theorem onDatabase_rowSequential (width : Nat) {t : Template} (harity : t.arity = width)
    (put : δ → Row → δ) : (onDatabase width put).RowSequential t Prod.fst put where
  prepare_eq := fun _ _ => rfl
  prepareTransient_eq := fun _ _ => rfl
  execute_error := by
    intro s s' rows statement parameters cause _ _ _ hexec
    simp only [onDatabase] at hexec
    split at hexec <;> simp_all [Prod.ext_iff]
  execute_ok := by
    intro s s' rows statement parameters count _ _ _ hexec
    simp only [onDatabase] at hexec
    split at hexec <;> simp_all [Prod.ext_iff]

end Executor

namespace Writer

open Journal

variable {e : Executor σ η ε} {database : σ → δ} {put : δ → Row → δ}

theorem Ledger.database_eq {j : List (Entry η ε)} {w : Writer η} (h : Ledger j w)
    (he : e.RowSequential w.template database put) {s s' : σ} {statement : η}
    {answer : Except ε UInt64} (hsome : w.pending ≠ 0)
    (hprep : e.Prepared (w.template.text w.pending) statement)
    (hexec : e.execute s statement w.parameters = (s', answer)) :
    database s' = ((Call.execute statement w.parameters answer).carried w.arity).foldl put
      (database s) := by
  have hpos : 0 < w.pending := Nat.pos_of_ne_zero hsome
  cases answer with
  | error cause => exact he.execute_error _ _ _ _ _ _ hpos hprep h.parameters_length hexec
  | ok count => exact he.execute_ok _ _ _ _ _ _ hpos hprep h.parameters_length hexec

/-- The database has received the carried rows one by one. -/
theorem Exec.database_eq {u : Setup η} {s s' : σ} {w' : Writer η} {j : List (Entry η ε)}
    (he : e.RowSequential u.template database put) (hpos : 0 < u.batchSize)
    (hfull : e.Prepared (u.template.text u.batchSize) u.statement)
    (h : Exec e s (fresh u) j s' w') :
    database s' = (carried u.arity j).foldl put (database s) := by
  induction h with
  | refl => rfl
  | @tail j s' w' entries s'' w'' hexec hmove ih =>
    have hledger := hexec.ledger
    have hsetup : w'.toSetup = u := hexec.toSetup_eq
    subst hsetup
    rw [carried_append, List.foldl_append, ← ih]
    cases hmove with
    | taken => rfl
    | batch hsize hanswer =>
      have hsome : w'.pending ≠ 0 := by omega
      rw [hledger.database_eq he hsome (hsize ▸ hfull) hanswer]
      simp
    | refused _ _ hprep => exact he.database_prepareTransient hprep
    | rest hsome _ hprep hanswer =>
      have hsame := he.database_prepareTransient hprep
      rw [hledger.database_eq he hsome ⟨_, _, .inr hprep⟩ hanswer, hsame]
      simp [Call.carried]
    | reset => rfl

section

variable {s : σ} {batchSize : Nat} {table : String} {fields : FieldSet} {variant : Variant}
  {operations : List Operation} {h : History σ η ε}

theorem session_database_eq
    (hrun : session e s batchSize table fields variant operations = .ok h)
    (he : e.RowSequential h.writer.template database put) (hreset : .reset ∉ operations)
    (hdone : h.writer.pending = 0) :
    database h.state = (accepted h.journal).foldl put (database s) := by
  obtain ⟨s₀, hopened, hexec⟩ := session_exec hrun
  have hledger := hexec.ledger
  have hprep : e.prepare s (h.writer.template.text h.writer.batchSize) =
      (s₀, .ok h.writer.statement) := hopened.text_eq ▸ hopened.prepared
  have hstart := he.prepare_eq s h.writer.batchSize
  rw [hprep] at hstart
  have hwaiting : waiting h.journal = [] := List.eq_nil_of_length_eq_zero (hledger.pending_eq ▸ hdone)
  have hbalance := hledger.balanced
  rw [session_recent hrun hreset, hwaiting, List.append_nil] at hbalance
  calc database h.state = (carried h.writer.arity h.journal).foldl put (database s₀) :=
        hexec.database_eq he hopened.batchSize_pos ⟨_, _, .inl hprep⟩
    _ = (accepted h.journal).foldl put (database s) := by rw [hbalance, hstart]

end

/-- Two runs that accept the same rows leave the same database, whatever the sizes of their batches,
their flushes and the failures that they met. -/
theorem batching_transparent {σ₁ η₁ ε₁ σ₂ η₂ ε₂ : Type} {e₁ : Executor σ₁ η₁ ε₁}
    {e₂ : Executor σ₂ η₂ ε₂} {database₁ : σ₁ → δ} {database₂ : σ₂ → δ} {put : δ → Row → δ}
    {s₁ : σ₁} {s₂ : σ₂} {batchSize₁ batchSize₂ : Nat} {table : String} {fields : FieldSet}
    {variant : Variant} {operations₁ operations₂ : List Operation} {h₁ : History σ₁ η₁ ε₁}
    {h₂ : History σ₂ η₂ ε₂}
    (hrun₁ : session e₁ s₁ batchSize₁ table fields variant operations₁ = .ok h₁)
    (hrun₂ : session e₂ s₂ batchSize₂ table fields variant operations₂ = .ok h₂)
    (he₁ : e₁.RowSequential h₁.writer.template database₁ put)
    (he₂ : e₂.RowSequential h₂.writer.template database₂ put)
    (hstart : database₁ s₁ = database₂ s₂)
    (hreset₁ : .reset ∉ operations₁) (hreset₂ : .reset ∉ operations₂)
    (hrows : accepted h₁.journal = accepted h₂.journal)
    (hdone₁ : h₁.writer.pending = 0) (hdone₂ : h₂.writer.pending = 0) :
    database₁ h₁.state = database₂ h₂.state ∧
      database₁ h₁.state = (accepted h₁.journal).foldl put (database₁ s₁) := by
  have hfirst := session_database_eq hrun₁ he₁ hreset₁ hdone₁
  have hsecond := session_database_eq hrun₂ he₂ hreset₂ hdone₂
  constructor
  · rw [hfirst, hsecond, hrows, hstart]
  · exact hfirst

def putLatest (table : List Row) (row : Row) : List Row :=
  row :: table.filter fun old => old.head? ≠ row.head?

def balances (batchSize : Nat) (failures : List Bool) (operations : List Operation) :
    Except (BatchError String) (History (List Row × List Bool) String String) :=
  session (Executor.onDatabase 2 putLatest) ([], failures) batchSize "accounts"
    ⟨["account", "balance"], ["account"], ["balance"], by decide, by decide, by decide⟩ .upsertExcluded
    operations

/-- Batches of two, of which the first fails twice, and batches of three with flushes between. -/
theorem balances_transparent : ∃ h₁ h₂,
    balances 2 [true, true] [.queue [.int 1, .int 10], .queue [.int 2, .int 20],
      .queue [.int 9, .int 90], .queue [.int 1, .int 30], .flush] = .ok h₁ ∧
    balances 3 [false, true] [.queue [.int 1, .int 10], .flush, .queue [.int 2, .int 20],
      .queue [.int 1, .int 30], .flush, .flush] = .ok h₂ ∧
    h₁.state.1 = h₂.state.1 ∧ h₁.state.1 = (accepted h₁.journal).foldl putLatest [] := by
  have hrun₁ : balances 2 [true, true] [.queue [.int 1, .int 10], .queue [.int 2, .int 20],
      .queue [.int 9, .int 90], .queue [.int 1, .int 30], .flush] = .ok _ := rfl
  have hrun₂ : balances 3 [false, true] [.queue [.int 1, .int 10], .flush,
      .queue [.int 2, .int 20], .queue [.int 1, .int 30], .flush, .flush] = .ok _ := rfl
  have hlaw := batching_transparent hrun₁ hrun₂ (Executor.onDatabase_rowSequential 2 rfl putLatest)
    (Executor.onDatabase_rowSequential 2 rfl putLatest) rfl (by simp) (by simp) (by decide) (by decide)
    (by decide)
  exact ⟨_, _, hrun₁, hrun₂, hlaw.1, hlaw.2⟩

end Writer
end RowBatch
