import RowBatch.Proofs.Environment.Reference

/-!
The search for a reference as a machine that reads a text once. Only dollar signs and braces matter
to it, and of other characters in a row it sees no more than one, so that texts which differ in
nothing else have references alike.
-/

namespace RowBatch
namespace Environment

/-- What was read of a reference. -/
inductive Progress where
  | nothing
  | dollar
  | opened
  | named
  | closed
deriving DecidableEq

def isMark (c : Char) : Bool := c == '$' || c == '\x7b' || c == '\x7d'

namespace Progress

def step : Progress → Char → Progress
  | .nothing, c => if c = '$' then .dollar else .nothing
  | .dollar, c => if c = '$' then .dollar else if c = '\x7b' then .opened else .nothing
  | .opened, c => if c = '\x7d' then .nothing else .named
  | .named, c => if c = '\x7d' then .closed else .named
  | .closed, _ => .closed

def run (p : Progress) (cs : List Char) : Progress := cs.foldl step p

@[simp] theorem run_cons (p : Progress) (c : Char) (cs : List Char) :
    p.run (c :: cs) = (p.step c).run cs := rfl

@[simp] theorem run_append (p : Progress) (cs ds : List Char) :
    p.run (cs ++ ds) = (p.run cs).run ds :=
  List.foldl_append

/-- What a text must hold for the search to end well. -/
def Succeeds : Progress → List Char → Prop
  | .nothing, cs => Refers cs
  | .dollar, cs => Refers ('$' :: cs)
  | .opened, cs => Refers ('$' :: '\x7b' :: cs)
  | .named, cs => '\x7d' ∈ cs
  | .closed, _ => True

theorem succeeds_step (p : Progress) (c : Char) (cs : List Char) :
    (p.step c).Succeeds cs ↔ p.Succeeds (c :: cs) := by
  cases p with
  | nothing =>
    by_cases hc : c = '$'
    · simp [step, hc, Succeeds]
    · simp [step, hc, Succeeds, refers_cons_of_ne hc]
  | dollar =>
    by_cases hdollar : c = '$'
    · subst hdollar
      simp [step, Succeeds, refers_dollar_of_ne (d := '$') (by decide)]
    · by_cases hbrace : c = '\x7b'
      · simp [step, hbrace, Succeeds]
      · simp [step, hdollar, hbrace, Succeeds, refers_dollar_of_ne hbrace,
          refers_cons_of_ne hdollar]
  | opened =>
    by_cases hc : c = '\x7d'
    · simp [step, hc, Succeeds, refers_opened_closed]
    · simp [step, hc, Succeeds, refers_opened_of_ne hc]
  | named =>
    by_cases hc : c = '\x7d'
    · simp [step, hc, Succeeds]
    · simp [step, hc, Succeeds, Ne.symm hc]
  | closed => exact Iff.rfl

theorem succeeds_nil {p : Progress} : p.Succeeds [] ↔ p = .closed := by
  cases p with
  | nothing => simp [Succeeds, not_refers_nil]
  | dollar => simp [Succeeds, refers_cons_iff, not_refers_nil]
  | opened => simp [Succeeds, refers_cons_iff, not_refers_nil]
  | named => simp [Succeeds]
  | closed => simp [Succeeds]

theorem run_eq_closed_iff (p : Progress) (cs : List Char) :
    p.run cs = .closed ↔ p.Succeeds cs := by
  induction cs generalizing p with
  | nil => exact succeeds_nil.symm
  | cons c cs ih => rw [run_cons, ih, succeeds_step]

theorem step_of_not_mark {c : Char} (hc : isMark c = false) (p : Progress) :
    p.step c = p.step '\n' := by
  simp only [isMark, Bool.or_eq_false_iff, beq_eq_false_iff_ne] at hc
  obtain ⟨⟨hdollar, hopen⟩, hclose⟩ := hc
  cases p <;> simp [step, hdollar, hopen, hclose]

/-- One more line break, or any other character that is no mark, makes no difference. -/
def Settled (p : Progress) : Prop := p.step '\n' = p

theorem settled_step (p : Progress) : (p.step '\n').Settled := by
  cases p <;> rfl

theorem settled_nothing : Progress.nothing.Settled := rfl

theorem run_of_unmarked {cs : List Char} (hne : cs ≠ []) (hcs : cs.any isMark = false)
    (p : Progress) : p.run cs = p.step '\n' := by
  induction cs generalizing p with
  | nil => exact absurd rfl hne
  | cons c cs ih =>
    obtain ⟨hc, hcs⟩ := Bool.or_eq_false_iff.mp hcs
    rw [run_cons, step_of_not_mark hc]
    cases cs with
    | nil => rfl
    | cons d cs =>
      rw [ih (List.cons_ne_nil d cs) hcs]
      exact p.settled_step

theorem Settled.run_eq {p : Progress} {cs : List Char} (hp : p.Settled)
    (hcs : cs.any isMark = false) : p.run cs = p := by
  cases cs with
  | nil => rfl
  | cons c cs => rw [run_of_unmarked (List.cons_ne_nil c cs) hcs, hp]

end Progress

theorem refers_iff_run {cs : List Char} : Refers cs ↔ Progress.nothing.run cs = .closed :=
  (Progress.run_eq_closed_iff .nothing cs).symm

end Environment
end RowBatch
