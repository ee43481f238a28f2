import Mathlib.Data.List.Basic
import Mathlib.Data.List.Induction
import RowBatch.Proofs.Writer.Move

/-!
What is true of every session: its writer was configured, its steps are the operations that were
asked for, and its calls and its state are those of the moves in its journal.
-/

namespace RowBatch
namespace Writer

variable {σ η ε : Type} {e : Executor σ η ε} {s : σ} {batchSize : Nat} {table : String}
  {fields : FieldSet} {variant : Variant}

/-- What an accepted configuration leaves: the statement for a full batch, prepared. -/
structure Opened (e : Executor σ η ε) (s : σ) (batchSize : Nat) (table : String)
    (fields : FieldSet) (variant : Variant) (u : Setup η) (s' : σ) : Prop where
  batchSize_pos : 0 < u.batchSize
  batchSize_eq : u.batchSize = batchSize
  template_ok : Template.configure table fields variant e.style = .ok u.template
  text_eq : u.statementText = u.template.text u.batchSize
  prepared : e.prepare s u.statementText = (s', .ok u.statement)

theorem configure_recorded {w : Writer η}
    (h : (configure e.recorded (s, []) batchSize table fields variant).result = .ok w) :
    ∃ u s', Opened e s batchSize table fields variant u s' ∧ w = fresh u ∧
      (configure e.recorded (s, []) batchSize table fields variant).state =
        (s', [.prepare u.statementText (.ok u.statement)]) := by
  by_cases hzero : batchSize = 0
  · simp [configure, hzero] at h
  · cases htemplate : Template.configure table fields variant e.style with
    | error cause => simp [configure, hzero, Executor.recorded, htemplate] at h
    | ok template =>
      rcases hprep : e.prepare s (template.text batchSize) with ⟨s', prepared⟩
      cases prepared with
      | error cause => simp [configure, hzero, Executor.recorded, htemplate, hprep] at h
      | ok statement =>
        have hpos : 0 < batchSize := Nat.pos_of_ne_zero hzero
        refine ⟨⟨template, batchSize, statement, template.text batchSize⟩, s',
          ⟨hpos, rfl, htemplate, rfl, hprep⟩, ?_⟩
        simp only [configure, hzero, Executor.recorded, htemplate, hprep, if_false] at h ⊢
        exact ⟨(Except.ok.inj h).symm, trivial⟩

def History.start (u : Setup η) (s : σ) : History σ η ε :=
  ⟨s, fresh u, [.prepare u.statementText (.ok u.statement)], []⟩

variable {operations : List Operation} {h : History σ η ε}

/-- A configuration that is accepted once is accepted for every list of operations. -/
theorem session_start (hrun : session e s batchSize table fields variant operations = .ok h) :
    ∃ u s', Opened e s batchSize table fields variant u s' ∧
      ∀ operations, session e s batchSize table fields variant operations =
        .ok (operations.foldl (History.advance e) (.start u s')) := by
  cases hnew : (configure e.recorded (s, []) batchSize table fields variant).result with
  | error cause =>
    rw [session, hnew] at hrun
    exact nomatch hrun
  | ok w =>
    obtain ⟨u, s', hopened, rfl, hstate⟩ := configure_recorded hnew
    refine ⟨u, s', hopened, fun operations => ?_⟩
    rw [session, hnew, hstate]
    rfl

/-- What holds after the configuration and is kept by every operation holds of the session. -/
theorem session_induction {P : List Operation → History σ η ε → Prop}
    (hrun : session e s batchSize table fields variant operations = .ok h)
    (hstart : ∀ u s', Opened e s batchSize table fields variant u s' → P [] (.start u s'))
    (hadvance : ∀ operations operation h,
      session e s batchSize table fields variant operations = .ok h → P operations h →
      P (operations ++ [operation]) (h.advance e operation)) : P operations h := by
  obtain ⟨u, s', hopened, hsession⟩ := session_start hrun
  obtain rfl := Except.ok.inj ((hsession operations).symm.trans hrun)
  clear hrun
  induction operations using List.reverseRecOn with
  | nil => exact hstart u s' hopened
  | append_singleton operations operation ih =>
    rw [List.foldl_append]
    exact hadvance operations operation _ (hsession operations) ih

theorem History.advance_performs (h : History σ η ε) (operation : Operation) : ∃ x,
    (h.advance e operation).steps = h.steps ++ [x] ∧ x.operation = operation ∧
      x.before = h.writer ∧ x.after = (h.advance e operation).writer ∧
      Performs e h.state h.writer operation x.calls x.result (h.advance e operation).state
        (h.advance e operation).writer :=
  ⟨_, rfl, rfl, rfl, rfl, perform_recorded operation⟩

theorem session_append (hrun : session e s batchSize table fields variant operations = .ok h)
    (later : List Operation) : session e s batchSize table fields variant (operations ++ later) =
      .ok (later.foldl (History.advance e) h) := by
  obtain ⟨u, s', _, hsession⟩ := session_start hrun
  obtain rfl := Except.ok.inj ((hsession operations).symm.trans hrun)
  rw [hsession, List.foldl_append]

theorem session_nil (hrun : session e s batchSize table fields variant [] = .ok h) :
    h.writer = fresh h.writer.toSetup ∧ h.steps = [] := by
  obtain ⟨u, s', _, hsession⟩ := session_start hrun
  obtain rfl := Except.ok.inj ((hsession []).symm.trans hrun)
  exact ⟨rfl, rfl⟩

theorem session_exec (hrun : session e s batchSize table fields variant operations = .ok h) :
    ∃ s', Opened e s batchSize table fields variant h.writer.toSetup s' ∧
      Exec e s' (fresh h.writer.toSetup) h.journal h.state h.writer := by
  apply session_induction hrun
  · intro u s' hopened
    exact ⟨s', hopened, .refl⟩
  · intro operations operation h _ ⟨s', hopened, hexec⟩
    have hstep := (perform_recorded (e := e) (s := h.state) (w := h.writer) operation).moves
      hopened.batchSize_pos
    have hsetup : (h.advance e operation).writer.toSetup = h.writer.toSetup := hstep.toSetup_eq
    rw [hsetup]
    refine ⟨s', hopened, ?_⟩
    simpa [History.advance, History.journal] using hexec.trans hstep

theorem session_operations
    (hrun : session e s batchSize table fields variant operations = .ok h) :
    h.steps.map Step.operation = operations := by
  apply session_induction hrun
  · intro u s' _
    rfl
  · intro operations operation h _ ih
    simp [History.advance, ih]

theorem session_performs (hrun : session e s batchSize table fields variant operations = .ok h) :
    ∀ x ∈ h.steps, ∃ s s', Performs e s x.before x.operation x.calls x.result s' x.after := by
  apply session_induction hrun
  · intro u s' _ x hx
    exact nomatch hx
  · intro operations operation h _ ih x hx
    rcases List.mem_append.mp hx with hx | hx
    · exact ih x hx
    · obtain rfl := List.mem_singleton.mp hx
      exact ⟨_, _, perform_recorded operation⟩

/-- Before any of its steps, a session was the session of the earlier operations. -/
theorem session_split (hrun : session e s batchSize table fields variant operations = .ok h)
    {earlier later : List (Step η ε)} {x : Step η ε} (hsplit : h.steps = earlier ++ x :: later) :
    ∃ past, session e s batchSize table fields variant (earlier.map Step.operation) = .ok past ∧
      past.steps = earlier ∧ past.writer = x.before ∧
      past.writer.toSetup = h.writer.toSetup := by
  revert later
  apply session_induction hrun
  · intro u s' _ later hsplit
    simp [History.start] at hsplit
  · intro operations operation h hprevious ih later hsplit
    have hsetup : (h.advance e operation).writer.toSetup = h.writer.toSetup :=
      (perform_recorded (e := e) (s := h.state) (w := h.writer) operation).toSetup_eq
    rw [hsetup]
    rcases List.eq_nil_or_concat later with rfl | ⟨later, y, rfl⟩
    · obtain ⟨rfl, hlast⟩ := List.append_inj' hsplit rfl
      obtain rfl := List.head_eq_of_cons_eq hlast
      rw [session_operations hprevious]
      exact ⟨h, hprevious, rfl, rfl, rfl⟩
    · rw [List.concat_eq_append, ← List.cons_append, ← List.append_assoc] at hsplit
      exact ih (List.append_inj' hsplit rfl).1

theorem session_last (hrun : session e s batchSize table fields variant operations = .ok h)
    {earlier : List (Step η ε)} {x : Step η ε} (hlast : h.steps = earlier ++ [x]) :
    h.writer = x.after := by
  revert hlast
  apply session_induction hrun
  · intro u s' _ hlast
    simp [History.start] at hlast
  · intro operations operation h _ _ hlast
    obtain ⟨-, hx⟩ := List.append_inj' hlast rfl
    obtain rfl := List.head_eq_of_cons_eq hx
    rfl

/-- A session begins with the preparation of the statement for a full batch. -/
theorem session_opening (hrun : session e s batchSize table fields variant operations = .ok h) :
    h.opening = [.prepare h.writer.statementText (.ok h.writer.statement)] := by
  apply session_induction hrun
  · intro u s' _
    rfl
  · intro operations operation h _ ih
    have hsetup := (perform_recorded (e := e) (s := h.state) (w := h.writer) operation).toSetup_eq
    simpa [History.advance, hsetup] using ih

theorem session_calls (hrun : session e s batchSize table fields variant operations = .ok h) :
    h.calls = .prepare h.writer.statementText (.ok h.writer.statement) ::
      Journal.calls h.journal := by
  have hjournal : Journal.calls h.journal = h.steps.flatMap Step.calls := by
    rw [History.journal, Journal.calls_flatMap]
    apply List.flatMap_congr
    intro x hx
    obtain ⟨_, _, hpath⟩ := session_performs hrun x hx
    exact Step.calls_entries hpath.calls_reset
  rw [History.calls, session_opening hrun, hjournal, List.singleton_append]

theorem session_recent (hrun : session e s batchSize table fields variant operations = .ok h)
    (hreset : .reset ∉ operations) : Journal.recent h.journal = h.journal := by
  apply Journal.recent_eq_self
  intro hmem
  obtain ⟨x, hx, hentry⟩ := List.mem_flatMap.mp hmem
  apply hreset
  rw [← session_operations hrun]
  exact List.mem_map.mpr ⟨x, hx, Step.reset_mem_entries.mp hentry⟩

end Writer
end RowBatch
