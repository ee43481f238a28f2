import Mathlib.Data.List.Infix
import RowBatch.Log.Filter

/-!
Which records the limit of a filter governs: those whose target starts like the library's own,
whatever the extra directives say of other targets. No other record depends on the limit.
-/

namespace RowBatch
namespace Log

/-- The directive decides about the target. It covers the target; of those before it that do, none
weighs more, and of those behind it none weighs as much. -/
def Filter.Decides (target : String) (f : Filter) (d : Directive) : Prop :=
  ∃ earlier later, f = earlier ++ d :: later ∧ d.covers target = true ∧
    (∀ e ∈ earlier, e.covers target = true → e.weight ≤ d.weight) ∧
    ∀ e ∈ later, e.covers target = true → e.weight < d.weight

namespace Filter

variable {target : String} {f rest : Filter} {a d e : Directive}

theorem Decides.mem (h : Decides target f d) : d ∈ f := by
  obtain ⟨earlier, later, rfl, -⟩ := h
  simp

theorem Decides.covers (h : Decides target f d) : d.covers target = true := by
  obtain ⟨_, _, -, hcovers, -⟩ := h
  exact hcovers

theorem Decides.weight_le (h : Decides target f d) (he : e ∈ f) (hcovers : e.covers target = true) :
    e.weight ≤ d.weight := by
  obtain ⟨earlier, later, rfl, -, hearlier, hlater⟩ := h
  rcases List.mem_append.mp he with he | he
  · exact hearlier e he hcovers
  · rcases List.mem_cons.mp he with rfl | he
    · exact Nat.le_refl _
    · exact (hlater e he hcovers).le

theorem Decides.lighter_iff (h : Decides target f d) {n : Nat} :
    (∀ e ∈ f, e.covers target = true → e.weight < n) ↔ d.weight < n := by
  constructor
  · intro hlighter
    exact hlighter d h.mem h.covers
  · intro hlt e he hcovers
    exact (h.weight_le he hcovers).trans_lt hlt

theorem decides_cons : Decides target (a :: rest) d ↔
    a = d ∧ d.covers target = true ∧ (∀ e ∈ rest, e.covers target = true → e.weight < d.weight) ∨
      Decides target rest d ∧ (a.covers target = true → a.weight ≤ d.weight) := by
  constructor
  · rintro ⟨_ | ⟨b, earlier⟩, later, hsplit, hcovers, hearlier, hlater⟩
    · obtain ⟨rfl, rfl⟩ := List.cons.inj hsplit
      exact .inl ⟨rfl, hcovers, hlater⟩
    · obtain ⟨rfl, rfl⟩ := List.cons.inj hsplit
      obtain ⟨hfirst, hearlier⟩ := List.forall_mem_cons.mp hearlier
      exact .inr ⟨⟨earlier, later, rfl, hcovers, hearlier, hlater⟩, hfirst⟩
  · rintro (⟨rfl, hcovers, hlater⟩ | ⟨⟨earlier, later, rfl, hcovers, hearlier, hlater⟩, hfirst⟩)
    · exact ⟨[], rest, rfl, hcovers, by simp, hlater⟩
    · exact ⟨a :: earlier, later, rfl, hcovers, List.forall_mem_cons.mpr ⟨hfirst, hearlier⟩, hlater⟩

theorem deciding?_eq_none_iff : deciding? target f = none ↔ ∀ d ∈ f, d.covers target = false := by
  induction f with
  | nil => simp [deciding?]
  | cons a rest ih =>
    rw [List.forall_mem_cons, ← ih]
    cases hrest : deciding? target rest with
    | none => simp [deciding?, hrest]
    | some e =>
      simp only [deciding?, hrest, reduceCtorEq, and_false, iff_false]
      split <;> simp

theorem deciding?_cons_of_not_covers (h : a.covers target = false) :
    deciding? target (a :: rest) = deciding? target rest := by
  cases hrest : deciding? target rest with
  | none => simp [deciding?, hrest, h]
  | some e => simp [deciding?, hrest, h]

theorem deciding?_eq_some_iff : deciding? target f = some d ↔ Decides target f d := by
  induction f generalizing d with
  | nil => simp [deciding?, Decides]
  | cons a rest ih =>
    rw [decides_cons, ← ih]
    cases hrest : deciding? target rest with
    | none =>
      have hlighter : ∀ e ∈ rest, e.covers target = true → e.weight < d.weight := by
        intro e he hcovers
        rw [deciding?_eq_none_iff.mp hrest e he] at hcovers
        cases hcovers
      simp only [deciding?, hrest, Option.ite_none_right_eq_some, Option.some.injEq, reduceCtorEq,
        false_and, or_false]
      constructor
      · rintro ⟨hcovers, rfl⟩
        exact ⟨rfl, hcovers, hlighter⟩
      · rintro ⟨rfl, hcovers, -⟩
        exact ⟨hcovers, rfl⟩
    | some e =>
      have hdecides : Decides target rest e := ih.mp hrest
      simp only [deciding?, hrest]
      by_cases hheavier : a.covers target = true ∧ e.weight < a.weight
      · rw [if_pos (by simpa using hheavier)]
        constructor
        · intro h
          obtain rfl := Option.some.inj h
          exact .inl ⟨rfl, hheavier.1, hdecides.lighter_iff.mpr hheavier.2⟩
        · rintro (⟨rfl, -⟩ | ⟨h, hle⟩)
          · rfl
          · obtain rfl := Option.some.inj h
            exact absurd hheavier.2 (Nat.not_lt.mpr (hle hheavier.1))
      · rw [if_neg (by simpa using hheavier)]
        constructor
        · intro h
          obtain rfl := Option.some.inj h
          exact .inr ⟨rfl, fun hcovers => Nat.not_lt.mp fun hlt => hheavier ⟨hcovers, hlt⟩⟩
        · rintro (⟨rfl, hcovers, hlighter⟩ | ⟨h, -⟩)
          · exact absurd ⟨hcovers, hdecides.lighter_iff.mp hlighter⟩ hheavier
          · exact h

end Filter

/-- The library's own target, or that of one of its parts. -/
def IsOwn (target : String) : Prop :=
  target = rootTarget ∨ (rootTarget ++ "::").toList <+: target.toList

/-- The target starts with the letters of the library's own. Others can do so by chance. -/
def StartsAsOwn (target : String) : Prop := rootTarget.toList <+: target.toList

instance (target : String) : Decidable (IsOwn target) := inferInstanceAs (Decidable (_ ∨ _))

instance (target : String) : Decidable (StartsAsOwn target) :=
  inferInstanceAs (Decidable (rootTarget.toList <+: target.toList))

theorem IsOwn.startsAsOwn {target : String} (h : IsOwn target) : StartsAsOwn target := by
  rcases h with rfl | h
  · exact List.prefix_rfl
  · rw [String.toList_append] at h
    exact (List.prefix_append _ _).trans h

namespace Directive

variable {target : String} {d : Directive} {limit : Limit}

def Foreign (d : Directive) : Prop := ∀ start, d.target? = some start → ¬StartsAsOwn start

theorem covers_iff {start : String} (h : d.target? = some start) :
    d.covers target = true ↔ start.toList <+: target.toList := by
  rw [covers, h, List.isPrefixOf_iff_prefix]

/-- About a target that starts like the library's own, no foreign directive weighs as much. -/
theorem Foreign.weight_lt (h : d.Foreign) (htarget : StartsAsOwn target)
    (hcovers : d.covers target = true) : d.weight < weight ⟨some rootTarget, limit⟩ := by
  cases hstart : d.target? with
  | none => simp [weight, hstart]
  | some start =>
    have hforeign : ¬StartsAsOwn start := h start hstart
    have hprefix : start.toList <+: rootTarget.toList :=
      (List.prefix_or_prefix_of_prefix ((covers_iff hstart).mp hcovers) htarget).resolve_right
        hforeign
    have hshorter : start.toList.length < rootTarget.toList.length := by
      refine Nat.lt_of_le_of_ne hprefix.length_le fun hlength => hforeign ?_
      rw [StartsAsOwn, hprefix.eq_of_length hlength]
    rw [String.length_toList, String.length_toList] at hshorter
    simpa [weight, hstart] using hshorter

end Directive

namespace Filter

variable {target : String} {level : Level} {f : Filter}

theorem enabled_of_startsAsOwn (limit : Limit) (hforeign : ∀ d ∈ f, d.Foreign)
    (htarget : StartsAsOwn target) :
    enabled (⟨some rootTarget, limit⟩ :: f) target level = limit.allows level := by
  have hdecides : deciding? target (⟨some rootTarget, limit⟩ :: f) =
      some ⟨some rootTarget, limit⟩ := by
    refine deciding?_eq_some_iff.mpr (decides_cons.mpr (.inl ⟨rfl, ?_, fun d hd hcovers => ?_⟩))
    · exact (Directive.covers_iff rfl).mpr htarget
    · exact (hforeign d hd).weight_lt htarget hcovers
  rw [enabled, hdecides]

theorem enabled_of_not_startsAsOwn (limit : Limit) (htarget : ¬StartsAsOwn target) :
    enabled (⟨some rootTarget, limit⟩ :: f) target level = enabled f target level := by
  have hcovers : Directive.covers ⟨some rootTarget, limit⟩ target = false :=
    Bool.eq_false_iff.mpr (mt (Directive.covers_iff rfl).mp htarget)
  rw [enabled, deciding?_cons_of_not_covers hcovers, enabled]

theorem mem_readPieces {d : Directive} {pieces : List (List Char)} :
    d ∈ (readPieces pieces).1 ↔ ∃ piece ∈ pieces, Directive.parse piece = .ok (some d) := by
  induction pieces with
  | nil => simp [readPieces]
  | cons piece rest ih =>
    rw [List.exists_mem_cons_iff, ← ih]
    cases hread : Directive.parse piece with
    | error e => simp [readPieces, hread]
    | ok read =>
      cases read with
      | none => simp [readPieces, hread]
      | some a => simp [readPieces, hread, eq_comm]

end Filter

/-- The extra directives, as far as they can be read, are limits for all targets or for targets that
do not start like the library's own. -/
def ForeignExtra (extra : Option String) : Prop :=
  ∀ piece ∈ Filter.pieces (extra.getD ""), ∀ read, Directive.parse piece = .ok read →
    ∃ d, read = some d ∧ d.Foreign

theorem ForeignExtra.foreign {extra : Option String} (h : ForeignExtra extra) :
    ∀ d ∈ (Filter.readPieces (Filter.pieces (extra.getD ""))).1, d.Foreign := by
  intro d hd
  obtain ⟨piece, hpiece, hread⟩ := Filter.mem_readPieces.mp hd
  obtain ⟨_, heq, hforeign⟩ := h piece hpiece _ hread
  exact Option.some.inj heq ▸ hforeign

theorem exists_allows_ne (level : Level) : ∃ limit limit' : Limit,
    limit.allows level ≠ limit'.allows level := by
  refine ⟨.off, .upTo .trace, ?_⟩
  cases level <;> decide

/-- The limit decides alone about every record of the library, and about no record whose target does
not start like the library's. It decides as well about others whose target happens to start so. -/
theorem limit_governs_start {extra : Option String} (hextra : ForeignExtra extra) (target : String)
    (level : Level) :
    (IsOwn target → ∀ limit,
      (Filter.ofExtra limit extra).1.enabled target level = limit.allows level) ∧
    (StartsAsOwn target → ∀ limit,
      (Filter.ofExtra limit extra).1.enabled target level = limit.allows level) ∧
    ((∀ limit limit', (Filter.ofExtra limit extra).1.enabled target level =
      (Filter.ofExtra limit' extra).1.enabled target level) ↔ ¬StartsAsOwn target) ∧
    (¬StartsAsOwn target →
      (∀ piece ∈ Filter.pieces (extra.getD ""), ∃ error, Directive.parse piece = .error error) →
      ∀ limit, (Filter.ofExtra limit extra).1.enabled target level = false) := by
  have hgoverned (hstart : StartsAsOwn target) (limit : Limit) :
      (Filter.ofExtra limit extra).1.enabled target level = limit.allows level :=
    Filter.enabled_of_startsAsOwn limit hextra.foreign hstart
  have hothers (hstart : ¬StartsAsOwn target) (limit : Limit) :
      (Filter.ofExtra limit extra).1.enabled target level =
        Filter.enabled (Filter.readPieces (Filter.pieces (extra.getD ""))).1 target level :=
    Filter.enabled_of_not_startsAsOwn limit hstart
  refine ⟨fun hown => hgoverned hown.startsAsOwn, hgoverned, ⟨?_, ?_⟩, ?_⟩
  · intro hsame hstart
    obtain ⟨limit, limit', hne⟩ := exists_allows_ne level
    apply hne
    rw [← hgoverned hstart, ← hgoverned hstart]
    exact hsame limit limit'
  · intro hstart limit limit'
    rw [hothers hstart, hothers hstart]
  · intro hstart hnone limit
    have hread : (Filter.readPieces (Filter.pieces (extra.getD ""))).1 = [] := by
      rw [List.eq_nil_iff_forall_not_mem]
      intro d hd
      obtain ⟨piece, hpiece, hok⟩ := Filter.mem_readPieces.mp hd
      obtain ⟨error, herror⟩ := hnone piece hpiece
      exact nomatch hok.symm.trans herror
    rw [hothers hstart, hread]
    rfl

def sampleExtra : String := "debug,tokio=warn, loud=noise"

theorem sampleExtra_foreign : ForeignExtra (some sampleExtra) := by
  intro piece hpiece read hread
  have hpieces : Filter.pieces sampleExtra =
      ["debug".toList, "tokio=warn".toList, "loud=noise".toList] := rfl
  rw [Option.getD_some, hpieces, List.mem_cons, List.mem_cons, List.mem_singleton] at hpiece
  rcases hpiece with rfl | rfl | rfl
  · obtain rfl := Except.ok.inj hread
    exact ⟨_, rfl, nofun⟩
  · obtain rfl := Except.ok.inj hread
    refine ⟨_, rfl, fun start hstart => ?_⟩
    obtain rfl := Option.some.inj hstart
    decide
  · exact nomatch hread

theorem sampleExtra_governed : ForeignExtra (some sampleExtra) ∧
    (Filter.ofExtra (.upTo .info) (some sampleExtra)).1.enabled "bulkdb::logger" .debug = false ∧
    (Filter.ofExtra .off (some sampleExtra)).1.enabled "tokio::net" .warn =
      (Filter.ofExtra (.upTo .trace) (some sampleExtra)).1.enabled "tokio::net" .warn := by
  obtain ⟨hown, -⟩ := limit_governs_start sampleExtra_foreign "bulkdb::logger" .debug
  obtain ⟨-, -, hothers, -⟩ := limit_governs_start sampleExtra_foreign "tokio::net" .warn
  exact ⟨sampleExtra_foreign, hown (by decide) (.upTo .info), hothers.mpr (by decide) _ _⟩

/-- A target that only starts like the library's own is not one of its parts, and yet the limit
decides about it. -/
theorem namesake_governed : ForeignExtra none ∧ ¬IsOwn "bulkdbx" ∧
    (Filter.ofExtra (.upTo .error) none).1.enabled "bulkdbx" .error = true ∧
    (Filter.ofExtra .off none).1.enabled "bulkdbx" .error = false :=
  ⟨nofun, by decide, by decide, by decide⟩

end Log
end RowBatch
