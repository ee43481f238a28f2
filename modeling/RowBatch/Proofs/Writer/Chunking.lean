import RowBatch.Executor
import RowBatch.Proofs.Statement.Layout
import RowBatch.Proofs.Writer.Session

/-!
What a writer does when nothing fails: the rows are cut into batches in the order in which they come,
and a flush writes what is left over.
-/

namespace RowBatch

variable {σ η ε : Type} {e : Executor σ η ε} {sound : σ → Prop}

/-- From a sound state the executor never fails, and goes on to sound states. -/
structure Executor.Reliable (e : Executor σ η ε) (sound : σ → Prop) : Prop where
  prepareTransient : ∀ {s} text, sound s →
    ∃ s' statement, e.prepareTransient s text = (s', .ok statement) ∧ sound s'
  execute : ∀ {s} statement parameters, sound s →
    ∃ s' count, e.execute s statement parameters = (s', .ok count) ∧ sound s'

theorem Script.reliable (style : PlaceholderStyle) :
    (Script.executor style).Reliable (· = ⟨[], []⟩) where
  prepareTransient := by
    rintro _ text rfl
    exact ⟨_, text, rfl, rfl⟩
  execute := by
    rintro _ statement parameters rfl
    exact ⟨_, _, rfl, rfl⟩

namespace Writer

section Paths

variable {s s' : σ} {w w' : Writer η} {row : Row} {calls : List (Call η ε)}
  {result : Except (BatchError ε) (Option Bool)}

theorem Performs.row_reliable (he : e.Reliable sound) (hs : sound s)
    (h : Performs e s w (.queue row) calls result s' w') (hlen : row.length = w.arity)
    (hroom : w.pending < w.batchSize) : sound s' ∧
      ((w.pending + 1 ≠ w.batchSize ∧ calls = [] ∧ result = .ok (some false) ∧
          w' = w.holding row) ∨
        (w.pending + 1 = w.batchSize ∧ result = .ok (some true) ∧ ∃ count,
          calls = [.execute w.statement (w.parameters ++ row) (.ok count)] ∧
            w' = (w.holding row).written count)) := by
  cases h with
  | mismatched hne => exact absurd hlen hne
  | blocked _ hfull _ => omega
  | retried _ hfull _ _ => omega
  | queued _ _ hrow =>
    cases hrow with
    | waits hwaits => exact ⟨hs, .inl ⟨hwaits, rfl, rfl, rfl⟩⟩
    | fills hfills hexec =>
      obtain ⟨s'', count, hok, hs''⟩ := he.execute w.statement (w.holding row).parameters hs
      obtain ⟨rfl, rfl⟩ := Prod.mk.inj (hexec.symm.trans hok)
      exact ⟨hs'', .inr ⟨hfills, rfl, count, by simp, rfl⟩⟩

theorem Performs.flush_reliable (he : e.Reliable sound) (hs : sound s)
    (h : Performs e s w .flush calls result s' w') (hroom : w.pending < w.batchSize) :
    result = .ok none ∧ w'.pending = 0 ∧ (w.pending = 0 → calls = []) ∧
      (w.pending ≠ 0 → ∃ statement count,
        calls = [.prepareTransient (w.template.text w.pending) (.ok statement),
          .execute statement w.parameters (.ok count)]) := by
  cases h with
  | idle hnone => exact ⟨rfl, hnone, fun _ => rfl, fun hsome => absurd hnone hsome⟩
  | flushedBatch _ hfull _ => omega
  | refused _ _ hprep =>
    obtain ⟨_, _, hok, _⟩ := he.prepareTransient (w.template.text w.pending) hs
    exact nomatch (Prod.mk.inj (hprep.symm.trans hok)).2
  | @flushedRest _ _ statement _ hsome _ hprep hexec =>
    obtain ⟨_, _, hok, hs'⟩ := he.prepareTransient (w.template.text w.pending) hs
    obtain ⟨rfl, -⟩ := Prod.mk.inj (hprep.symm.trans hok)
    obtain ⟨_, count, hok, -⟩ := he.execute statement w.parameters hs'
    obtain ⟨rfl, rfl⟩ := Prod.mk.inj (hexec.symm.trans hok)
    exact ⟨rfl, rfl, fun hnone => absurd hnone hsome, fun _ => ⟨statement, count, rfl⟩⟩

theorem Performs.flush_idle (h : Performs e s w .flush calls result s' w') (hnone : w.pending = 0) :
    calls = [] ∧ result = .ok none ∧ w' = w := by
  cases h with
  | idle => exact ⟨rfl, rfl, rfl⟩
  | flushedBatch hsome => exact absurd hnone hsome
  | refused hsome => exact absurd hnone hsome
  | flushedRest hsome => exact absurd hnone hsome

end Paths

/-- The rows were asked for one by one, and cut into batches: each batch was written with the row that
filled it, and the rows behind the last batch wait. -/
structure Chunked (batchSize : Nat) (statement : η) (rows : List Row) (steps : List (Step η ε))
    (w : Writer η) : Prop where
  operations_eq : steps.map Step.operation = rows.map .queue
  answers_eq : ∀ i < rows.length,
    steps[i]?.map Step.result = some (.ok (some (decide (batchSize ∣ i + 1))))
  length_calls : (steps.flatMap Step.calls).length = rows.length / batchSize
  calls_eq : ∀ j < rows.length / batchSize, ∃ count, (steps.flatMap Step.calls)[j]? =
    some (.execute statement ((rows.drop (j * batchSize)).take batchSize).flatten (.ok count))
  pending_eq : w.pending = rows.length % batchSize
  parameters_eq : w.parameters = (rows.drop (rows.length - rows.length % batchSize)).flatten

namespace Chunked

variable {batchSize : Nat} {statement : η} {rows : List Row} {steps : List (Step η ε)}
  {w : Writer η} {row : Row} {x : Step η ε}

theorem fresh (u : Setup η) :
    Chunked u.batchSize u.statement [] ([] : List (Step η ε)) (fresh u) where
  operations_eq := rfl
  answers_eq := by simp
  length_calls := by simp
  calls_eq := by simp
  pending_eq := by simp
  parameters_eq := by simp

theorem answers_append (h : Chunked batchSize statement rows steps w)
    (hresult : x.result = .ok (some (decide (batchSize ∣ rows.length + 1)))) :
    ∀ i < (rows ++ [row]).length, (steps ++ [x])[i]?.map Step.result =
      some (.ok (some (decide (batchSize ∣ i + 1)))) := by
  intro i hi
  have hlength : steps.length = rows.length := by
    simpa using congrArg List.length h.operations_eq
  rw [List.length_append, List.length_singleton] at hi
  rcases Nat.lt_succ_iff_lt_or_eq.mp hi with hlt | rfl
  · rw [List.getElem?_append_left (hlength ▸ hlt)]
    exact h.answers_eq i hlt
  · rw [← hlength, List.getElem?_concat_length, hlength, Option.map_some, hresult]

theorem chunk_append {j : Nat} (hj : j < rows.length / batchSize) :
    ((rows ++ [row]).drop (j * batchSize)).take batchSize =
      (rows.drop (j * batchSize)).take batchSize := by
  have hend : (j + 1) * batchSize ≤ rows.length :=
    Nat.le_trans (Nat.mul_le_mul_right batchSize hj) (Nat.div_mul_le_self _ _)
  rw [Nat.succ_mul] at hend
  rw [List.drop_append_of_le_length (by omega), List.take_append_of_le_length]
  rw [List.length_drop]
  omega

theorem waits (h : Chunked batchSize statement rows steps w) (hpos : 0 < batchSize)
    (hroom : rows.length % batchSize + 1 ≠ batchSize) (hoperation : x.operation = .queue row)
    (hcalls : x.calls = []) (hresult : x.result = .ok (some false)) :
    Chunked batchSize statement (rows ++ [row]) (steps ++ [x]) (w.holding row) := by
  have hlt := Nat.mod_lt rows.length hpos
  obtain ⟨hdiv, hmod⟩ : (rows.length + 1) / batchSize = rows.length / batchSize ∧
      (rows.length + 1) % batchSize = rows.length % batchSize + 1 := by
    rw [Nat.div_mod_unique hpos]
    have hsum := Nat.mod_add_div rows.length batchSize
    omega
  have hsame : (steps ++ [x]).flatMap Step.calls = steps.flatMap Step.calls := by simp [hcalls]
  constructor
  · simp [h.operations_eq, hoperation]
  · refine h.answers_append ?_
    simp [hresult, Nat.dvd_iff_mod_eq_zero, hmod]
  · rw [hsame, h.length_calls, List.length_append, List.length_singleton, hdiv]
  · intro j hj
    rw [List.length_append, List.length_singleton, hdiv] at hj
    rw [hsame, chunk_append hj]
    exact h.calls_eq j hj
  · simp [h.pending_eq, hmod]
  · have hstart : rows.length + 1 - (rows.length % batchSize + 1) =
        rows.length - rows.length % batchSize := by omega
    rw [holding_parameters, h.parameters_eq, List.length_append, List.length_singleton, hmod, hstart,
      List.drop_append_of_le_length (Nat.sub_le _ _)]
    simp

theorem fills (h : Chunked batchSize statement rows steps w) (hpos : 0 < batchSize)
    (hfull : rows.length % batchSize + 1 = batchSize) {count : UInt64}
    (hoperation : x.operation = .queue row)
    (hcalls : x.calls = [.execute statement (w.parameters ++ row) (.ok count)])
    (hresult : x.result = .ok (some true)) :
    Chunked batchSize statement (rows ++ [row]) (steps ++ [x]) ((w.holding row).written count) := by
  obtain ⟨hdiv, hmod⟩ : (rows.length + 1) / batchSize = rows.length / batchSize + 1 ∧
      (rows.length + 1) % batchSize = 0 := by
    rw [Nat.div_mod_unique hpos]
    have hsum := Nat.mod_add_div rows.length batchSize
    rw [Nat.mul_succ]
    omega
  have hmore : (steps ++ [x]).flatMap Step.calls =
      steps.flatMap Step.calls ++ [.execute statement (w.parameters ++ row) (.ok count)] := by
    simp [hcalls]
  constructor
  · simp [h.operations_eq, hoperation]
  · refine h.answers_append ?_
    simp [hresult, Nat.dvd_iff_mod_eq_zero, hmod]
  · rw [hmore, List.length_append, h.length_calls, List.length_append, List.length_singleton,
      List.length_singleton, hdiv]
  · intro j hj
    rw [List.length_append, List.length_singleton, hdiv] at hj
    rw [hmore]
    rcases Nat.lt_succ_iff_lt_or_eq.mp hj with hlt | rfl
    · rw [List.getElem?_append_left (h.length_calls ▸ hlt), chunk_append hlt]
      exact h.calls_eq j hlt
    · have hstart : rows.length - rows.length % batchSize = rows.length / batchSize * batchSize :=
        Nat.div_mul_self_eq_mod_sub_self.symm
      have hle : rows.length / batchSize * batchSize ≤ rows.length := Nat.div_mul_le_self _ _
      have hrest : rows.length - rows.length / batchSize * batchSize + 1 ≤ batchSize := by
        have hmodLe := Nat.mod_le rows.length batchSize
        omega
      refine ⟨count, ?_⟩
      rw [← h.length_calls, List.getElem?_concat_length, h.length_calls, h.parameters_eq, hstart,
        List.drop_append_of_le_length hle, List.take_of_length_le]
      · simp
      · simpa using hrest
  · simp [hmod]
  · simp [hmod]

end Chunked

section Sessions

variable {s : σ} {batchSize : Nat} {table : String} {fields : FieldSet} {variant : Variant}
  {operations : List Operation} {h new : History σ η ε}

theorem session_chunked (he : e.Reliable sound)
    (hnew : session e s batchSize table fields variant [] = .ok new) (hsound : sound new.state)
    {rows : List Row} (hrows : ∀ row ∈ rows, row.length = new.writer.arity) : ∃ h,
      session e s batchSize table fields variant (rows.map .queue) = .ok h ∧ sound h.state ∧
        h.writer.toSetup = new.writer.toSetup ∧
        Chunked new.writer.batchSize new.writer.statement rows h.steps h.writer := by
  obtain ⟨_, hopened, -⟩ := session_exec hnew
  have hpos := hopened.batchSize_pos
  induction rows using List.reverseRecOn with
  | nil =>
    obtain ⟨hwriter, hsteps⟩ := session_nil hnew
    refine ⟨new, hnew, hsound, rfl, ?_⟩
    rw [hsteps, hwriter]
    exact .fresh _
  | append_singleton rows row ih =>
    obtain ⟨h, hrun, hstate, hsetup, hchunked⟩ := ih fun r hr => hrows r (by simp [hr])
    have hlen : row.length = h.writer.arity := by
      rw [congrArg Setup.arity hsetup]
      exact hrows row (by simp)
    have hsize : h.writer.batchSize = new.writer.batchSize := congrArg Setup.batchSize hsetup
    have hstatement : h.writer.statement = new.writer.statement := congrArg Setup.statement hsetup
    have hroom : h.writer.pending < h.writer.batchSize := by
      rw [hchunked.pending_eq, hsize]
      exact Nat.mod_lt _ hpos
    obtain ⟨x, hsteps, hoperation, -, -, hpath⟩ := h.advance_performs (e := e) (.queue row)
    have hsession : session e s batchSize table fields variant ((rows ++ [row]).map .queue) =
        .ok (h.advance e (.queue row)) := by
      rw [List.map_append, session_append hrun]
      rfl
    obtain ⟨hsound', hwaits | hfills⟩ := hpath.row_reliable he hstate hlen hroom
    · obtain ⟨hne, hcalls, hresult, hafter⟩ := hwaits
      rw [hchunked.pending_eq, hsize] at hne
      refine ⟨_, hsession, hsound', hpath.toSetup_eq.trans hsetup, ?_⟩
      rw [hsteps, hafter]
      exact hchunked.waits hpos hne hoperation hcalls hresult
    · obtain ⟨heq, hresult, count, hcalls, hafter⟩ := hfills
      rw [hchunked.pending_eq, hsize] at heq
      rw [hstatement] at hcalls
      refine ⟨_, hsession, hsound', hpath.toSetup_eq.trans hsetup, ?_⟩
      rw [hsteps, hafter]
      exact hchunked.fills hpos heq hoperation hcalls hresult

theorem session_idle (hrun : session e s batchSize table fields variant operations = .ok h)
    (hnone : h.writer.pending = 0) (flushes : Nat) : ∃ h' idle,
      session e s batchSize table fields variant (operations ++ List.replicate flushes .flush) =
        .ok h' ∧ h'.steps = h.steps ++ idle ∧ h'.writer = h.writer ∧ idle.length = flushes ∧
        ∀ x ∈ idle, x.operation = .flush ∧ x.calls = [] ∧ x.result = .ok none ∧
          x.before = h.writer ∧ x.after = h.writer := by
  induction flushes with
  | zero => exact ⟨h, [], by simpa using hrun, by simp, rfl, rfl, by simp⟩
  | succ flushes ih =>
    obtain ⟨h', idle, hrun', hsteps, hwriter, hlength, hidle⟩ := ih
    obtain ⟨x, hx, hoperation, hbefore, hafter, hpath⟩ := h'.advance_performs (e := e) .flush
    obtain ⟨hcalls, hresult, hsame⟩ := hpath.flush_idle (by rw [hwriter, hnone])
    refine ⟨h'.advance e .flush, idle ++ [x], ?_, ?_, hsame.trans hwriter, ?_, ?_⟩
    · rw [List.replicate_succ', ← List.append_assoc, session_append hrun']
      rfl
    · rw [hx, hsteps, List.append_assoc]
    · rw [List.length_append, hlength, List.length_singleton]
    · intro y hy
      rcases List.mem_append.mp hy with hy | hy
      · exact hidle y hy
      · obtain rfl := List.mem_singleton.mp hy
        exact ⟨hoperation, hcalls, hresult, hbefore.trans hwriter,
          hafter.trans (hsame.trans hwriter)⟩

/-- With an executor that never fails, a fresh writer writes the rows in batches of its size, in the
order in which they come and each as soon as it is complete. A flush then writes the rows that are
left over, if there are any, and later flushes do nothing. -/
theorem rows_chunked (he : e.Reliable sound)
    (hnew : session e s batchSize table fields variant [] = .ok new) (hsound : sound new.state)
    {rows : List Row} (hrows : ∀ row ∈ rows, row.length = fields.arity) (flushes : Nat) :
    ∃ h queued flush idle,
      session e s batchSize table fields variant
        (rows.map .queue ++ .flush :: List.replicate flushes .flush) = .ok h ∧
      h.steps = queued ++ flush :: idle ∧
      Chunked batchSize new.writer.statement rows queued flush.before ∧
      flush.operation = .flush ∧ flush.result = .ok none ∧ flush.after.pending = 0 ∧
      (rows.length % batchSize = 0 → flush.calls = []) ∧
      (rows.length % batchSize ≠ 0 → ∃ statement count, flush.calls =
        [.prepareTransient (new.writer.template.text (rows.length % batchSize)) (.ok statement),
          .execute statement (rows.drop (rows.length - rows.length % batchSize)).flatten
            (.ok count)]) ∧
      idle.length = flushes ∧
      ∀ x ∈ idle, x.operation = .flush ∧ x.calls = [] ∧ x.result = .ok none ∧
        x.after = flush.after := by
  obtain ⟨_, hopened, -⟩ := session_exec hnew
  obtain ⟨-, hfields, -, -⟩ := Template.configure_eq_ok hopened.template_ok
  have harity : new.writer.arity = fields.arity := congrArg FieldSet.arity hfields
  have hsize : new.writer.batchSize = batchSize := hopened.batchSize_eq
  rw [← harity] at hrows
  obtain ⟨h, hrun, hstate, hsetup, hchunked⟩ := session_chunked he hnew hsound hrows
  rw [hsize] at hchunked
  have hroom : h.writer.pending < h.writer.batchSize := by
    rw [hchunked.pending_eq, congrArg Setup.batchSize hsetup, hsize]
    exact Nat.mod_lt _ (hsize ▸ hopened.batchSize_pos)
  obtain ⟨flush, hflush, hoperation, hbefore, hafter, hpath⟩ :=
    h.advance_performs (e := e) .flush
  obtain ⟨hresult, hnone, hempty, hrest⟩ := hpath.flush_reliable he hstate hroom
  have hadvanced : session e s batchSize table fields variant (rows.map .queue ++ [.flush]) =
      .ok (h.advance e .flush) := session_append hrun [.flush]
  obtain ⟨h', idle, hrun', hsteps, -, hlength, hidle⟩ := session_idle hadvanced hnone flushes
  rw [hchunked.pending_eq, congrArg Setup.template hsetup, hchunked.parameters_eq] at hrest
  rw [hchunked.pending_eq] at hempty
  refine ⟨h', h.steps, flush, idle, ?_, ?_, hbefore ▸ hchunked, hoperation, hresult, hafter ▸ hnone,
    hempty, hrest, hlength, ?_⟩
  · rw [← hrun', List.append_assoc, List.singleton_append]
  · rw [hsteps, hflush, List.append_assoc, List.singleton_append]
  · intro x hx
    obtain ⟨hoperation, hcalls, hresult, -, hsame⟩ := hidle x hx
    exact ⟨hoperation, hcalls, hresult, hsame.trans hafter.symm⟩

end Sessions

def untroubled : Except (BatchError String) (History Script String String) :=
  session (Script.executor .numbered) ⟨[], []⟩ 2 "users" users .insertIgnore []

theorem untroubled_chunked : ∃ new, untroubled = .ok new ∧ ∃ h queued flush idle,
    session (Script.executor .numbered) ⟨[], []⟩ 2 "users" users .insertIgnore
        ([.queue [.int 1, .null], .queue [.int 2, .null], .queue [.int 3, .null]] ++
          .flush :: [.flush]) = .ok h ∧
      h.steps = queued ++ flush :: idle ∧
      Chunked 2 new.writer.statement [[.int 1, .null], [.int 2, .null], [.int 3, .null]] queued
        flush.before ∧
      ∃ statement count, flush.calls = [.prepareTransient (new.writer.template.text 1) (.ok statement),
        .execute statement [.int 3, .null] (.ok count)] := by
  have hnew : untroubled = .ok _ := rfl
  have hrows : ∀ row ∈ ([[.int 1, .null], [.int 2, .null], [.int 3, .null]] : List Row),
      row.length = users.arity := by decide
  obtain ⟨h, queued, flush, idle, hrun, hsteps, hchunked, -, -, -, -, hrest, -⟩ :=
    rows_chunked (Script.reliable .numbered) hnew rfl hrows 1
  exact ⟨_, hnew, h, queued, flush, idle, hrun, hsteps, hchunked, hrest (by decide)⟩

end Writer
end RowBatch
