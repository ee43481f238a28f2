import Mathlib.Data.List.Basic
import RowBatch.Environment.Reference

/-!
Which variables a text refers to. Only they count when its references are replaced, and a text that
refers to none stays as it is.
-/

namespace RowBatch
namespace Environment

/-- A dollar sign and an opening brace stand somewhere, and a name behind them: a character or more
up to a closing brace. -/
def Refers (cs : List Char) : Prop :=
  ∃ first rest, '$' :: '\x7b' :: first :: rest <:+ cs ∧ first ≠ '\x7d' ∧ '\x7d' ∈ rest

section Refers

variable {c d : Char} {cs rest : List Char}

theorem not_refers_nil : ¬Refers [] := by
  rintro ⟨first, rest, hsuffix, -⟩
  simpa using hsuffix.length_le

theorem Refers.cons (h : Refers cs) (c : Char) : Refers (c :: cs) := by
  obtain ⟨first, rest, hsuffix, hname⟩ := h
  exact ⟨first, rest, List.suffix_cons_iff.mpr (.inr hsuffix), hname⟩

theorem refers_cons_iff : Refers (c :: cs) ↔
    (∃ first rest, c :: cs = '$' :: '\x7b' :: first :: rest ∧ first ≠ '\x7d' ∧ '\x7d' ∈ rest) ∨
      Refers cs := by
  constructor
  · rintro ⟨first, rest, hsuffix, hname⟩
    rcases List.suffix_cons_iff.mp hsuffix with heq | hsuffix
    · exact .inl ⟨first, rest, heq.symm, hname⟩
    · exact .inr ⟨first, rest, hsuffix, hname⟩
  · rintro (⟨first, rest, heq, hname⟩ | h)
    · exact ⟨first, rest, heq ▸ List.suffix_rfl, hname⟩
    · exact h.cons c

theorem refers_cons_of_ne (hc : c ≠ '$') : Refers (c :: cs) ↔ Refers cs := by
  rw [refers_cons_iff, or_iff_right]
  rintro ⟨first, rest, heq, -⟩
  exact hc (List.cons.inj heq).1

theorem refers_dollar_of_ne (hd : d ≠ '\x7b') : Refers ('$' :: d :: cs) ↔ Refers (d :: cs) := by
  rw [refers_cons_iff, or_iff_right]
  rintro ⟨first, rest, heq, -⟩
  exact hd (List.cons.inj (List.cons.inj heq).2).1

theorem Refers.brace_mem (h : Refers (c :: cs)) : '\x7d' ∈ cs := by
  obtain ⟨first, rest, hsuffix, -, hmem⟩ := h
  rcases List.suffix_cons_iff.mp hsuffix with heq | hsuffix
  · obtain ⟨-, rfl⟩ := List.cons.inj heq
    simp [hmem]
  · exact hsuffix.subset (by simp [hmem])

theorem refers_opened_of_ne (hc : c ≠ '\x7d') :
    Refers ('$' :: '\x7b' :: c :: cs) ↔ '\x7d' ∈ cs := by
  constructor
  · intro h
    rcases refers_cons_iff.mp h with ⟨first, rest, heq, -, hmem⟩ | h
    · obtain ⟨rfl, rfl⟩ := List.cons.inj (List.cons.inj (List.cons.inj heq).2).2
      exact hmem
    · exact ((refers_cons_of_ne (by decide)).mp h).brace_mem
  · intro hmem
    exact ⟨c, cs, List.suffix_rfl, hc, hmem⟩

theorem refers_opened_closed : Refers ('$' :: '\x7b' :: '\x7d' :: cs) ↔ Refers cs := by
  rw [refers_cons_iff, or_iff_right, refers_cons_of_ne (by decide), refers_cons_of_ne (by decide)]
  rintro ⟨first, rest, heq, hname, -⟩
  exact hname (List.cons.inj (List.cons.inj (List.cons.inj heq).2).2).1.symm

end Refers

namespace Piece

def name? : Piece → Option String
  | .char _ => none
  | .reference name => some (String.ofList name)

def source : Piece → List Char
  | .char c => [c]
  | .reference name => '$' :: '\x7b' :: name ++ ['\x7d']

section Equations

variable {c : Char} {rest name after : List Char}

theorem ofText_reference (h : readName? rest = some (name, after)) :
    ofText ('$' :: '\x7b' :: rest) = .reference name :: ofText after := by
  rw [ofText]
  split <;> simp_all

theorem ofText_dollar (h : readName? rest = none) :
    ofText ('$' :: '\x7b' :: rest) = .char '$' :: ofText ('\x7b' :: rest) := by
  rw [ofText]
  split <;> simp_all

theorem ofText_char (h : ∀ more, c = '$' → rest = '\x7b' :: more → False) :
    ofText (c :: rest) = .char c :: ofText rest := by
  rw [ofText]
  exact h

theorem ofText_append {before : List Char} (h : '$' ∉ before) (cs : List Char) :
    ofText (before ++ cs) = before.map .char ++ ofText cs := by
  induction before with
  | nil => rfl
  | cons c before ih =>
    obtain ⟨hc, hbefore⟩ := not_or.mp (mt List.mem_cons.mpr h)
    rw [List.cons_append, ofText_char fun _ heq => absurd heq.symm hc, ih hbefore]
    rfl

end Equations

section Names

variable {c : Char} {cs name rest : List Char}

theorem readName?_eq_some_iff :
    readName? cs = some (name, rest) ↔ cs = name ++ '\x7d' :: rest ∧ name ≠ [] ∧ '\x7d' ∉ name := by
  constructor
  · intro h
    unfold readName? at h
    split at h
    · exact nomatch h
    · exact nomatch h
    · rename_i name' mark rest' hne hcut
      obtain ⟨rfl, rfl⟩ := Prod.mk.inj (Option.some.inj h)
      obtain ⟨heq, hmark, hname⟩ := Text.cutAt_eq_some_iff.mp hcut
      obtain rfl : mark = '\x7d' := by simpa using hmark
      exact ⟨heq, hne, fun hmem => by simpa using hname _ hmem⟩
  · rintro ⟨rfl, hne, hclosed⟩
    have hcut : Text.cutAt (· == '\x7d') (name ++ '\x7d' :: rest) = some (name, '\x7d', rest) := by
      refine Text.cutAt_eq_some_iff.mpr ⟨rfl, rfl, fun c hc => ?_⟩
      simpa using ne_of_mem_of_not_mem hc hclosed
    cases name with
    | nil => exact absurd rfl hne
    | cons first more => rw [readName?, hcut]

theorem eq_of_readName? (h : readName? cs = some (name, rest)) :
    cs = name ++ '\x7d' :: rest ∧ ∃ first more, name = first :: more ∧ first ≠ '\x7d' := by
  obtain ⟨heq, hne, hclosed⟩ := readName?_eq_some_iff.mp h
  obtain ⟨first, more, rfl⟩ := List.exists_cons_of_ne_nil hne
  exact ⟨heq, first, more, rfl, fun hfirst => hclosed (hfirst ▸ List.mem_cons_self)⟩

theorem not_mem_of_readName?_eq_none (h : readName? (c :: cs) = none) (hc : c ≠ '\x7d') :
    '\x7d' ∉ cs := by
  intro hmem
  cases hcut : Text.cutAt (· == '\x7d') (c :: cs) with
  | none =>
    have hclosed := Text.cutAt_eq_none_iff.mp hcut '\x7d' (List.mem_cons_of_mem c hmem)
    simp at hclosed
  | some cut =>
    obtain ⟨_ | ⟨first, more⟩, mark, after⟩ := cut
    · obtain ⟨heq, hmark, -⟩ := Text.cutAt_eq_some_iff.mp hcut
      obtain ⟨rfl, -⟩ := List.cons.inj heq
      exact hc (by simpa using hmark)
    · simp [readName?, hcut] at h

theorem refers_of_readName?_eq_none (h : readName? cs = none) :
    Refers ('$' :: '\x7b' :: cs) ↔ Refers ('\x7b' :: cs) := by
  cases cs with
  | nil =>
    refine iff_of_false ?_ ?_
    · exact fun hrefers => by simpa using hrefers.brace_mem
    · exact fun hrefers => by simpa using hrefers.brace_mem
  | cons first rest =>
    by_cases hfirst : first = '\x7d'
    · subst hfirst
      rw [refers_opened_closed, refers_cons_of_ne (by decide), refers_cons_of_ne (by decide)]
    · have hopen : '\x7d' ∉ rest := not_mem_of_readName?_eq_none h hfirst
      rw [refers_opened_of_ne hfirst]
      refine iff_of_false hopen fun hrefers => hopen ?_
      exact ((refers_cons_of_ne (by decide)).mp hrefers).brace_mem

end Names

theorem filterMap_name?_eq_nil_iff (cs : List Char) :
    (ofText cs).filterMap name? = [] ↔ ¬Refers cs := by
  induction cs using ofText.induct with
  | case1 => simp [ofText, not_refers_nil]
  | case2 rest name after hread ih =>
    obtain ⟨rfl, first, more, rfl, hfirst⟩ := eq_of_readName? hread
    have hrefers : Refers ('$' :: '\x7b' :: (first :: more ++ '\x7d' :: after)) :=
      ⟨first, more ++ '\x7d' :: after, List.suffix_rfl, hfirst, by simp⟩
    rw [ofText_reference hread]
    simpa [name?] using hrefers
  | case3 rest hread ih =>
    rw [ofText_dollar hread, refers_of_readName?_eq_none hread, ← ih]
    simp [name?]
  | case4 c rest hstart ih =>
    have hrefers : Refers (c :: rest) ↔ Refers rest := by
      rw [refers_cons_iff, or_iff_right]
      rintro ⟨first, more, heq, -⟩
      obtain ⟨rfl, rfl⟩ := List.cons.inj heq
      exact hstart _ rfl rfl
    rw [ofText_char hstart, hrefers, ← ih]
    simp [name?]

/-- Nothing of a text is lost in its pieces. -/
theorem flatMap_source_ofText (cs : List Char) : (ofText cs).flatMap source = cs := by
  induction cs using ofText.induct with
  | case1 => simp [ofText]
  | case2 rest name after hread ih =>
    rw [ofText_reference hread, List.flatMap_cons, ih, (eq_of_readName? hread).1]
    simp [source]
  | case3 rest hread ih =>
    rw [ofText_dollar hread, List.flatMap_cons, ih]
    rfl
  | case4 c rest hstart ih =>
    rw [ofText_char hstart, List.flatMap_cons, ih]
    rfl

section Variables

variable {env env' : Environment} {piece : Piece}

theorem missing?_eq_filter (env : Environment) (piece : Piece) :
    piece.missing? env = piece.name?.filter fun name => (env.get? name).isNone := by
  cases piece with
  | char c => rfl
  | reference name =>
    rw [missing?, name?, Option.filter_some]
    cases env.get? (String.ofList name) <;> rfl

theorem expand_congr (h : ∀ name, piece.name? = some name → env.get? name = env'.get? name) :
    piece.expand env = piece.expand env' := by
  cases piece with
  | char c => rfl
  | reference name => rw [expand, expand, h _ rfl]

theorem expand_eq_source (h : piece.name? = none) : piece.expand env = piece.source := by
  cases piece with
  | char c => rfl
  | reference name => exact nomatch h

@[simp] theorem filterMap_name?_char (cs : List Char) : (cs.map .char).filterMap name? = [] := by
  simp [name?]

@[simp] theorem flatMap_expand_char (cs : List Char) :
    (cs.map .char).flatMap (expand env) = cs := by
  induction cs with
  | nil => rfl
  | cons c cs ih => rw [List.map_cons, List.flatMap_cons, ih, expand, List.singleton_append]

end Variables

end Piece

/-- The names that a text refers to, in order. -/
def references (text : String) : List String := (Piece.ofText text.toList).filterMap Piece.name?

/-- Two environments that have the same values for some names. -/
def AgreeOn (names : List String) (env env' : Environment) : Prop :=
  ∀ name ∈ names, env.get? name = env'.get? name

section Text

variable {env env' : Environment} {text : String}

theorem references_eq_nil_iff : references text = [] ↔ ¬Refers text.toList :=
  Piece.filterMap_name?_eq_nil_iff text.toList

theorem missing_eq_filter (env : Environment) (text : String) :
    env.missing text = (references text).filter fun name => (env.get? name).isNone := by
  rw [references, List.filter_filterMap, missing]
  exact List.filterMap_congr fun piece _ => Piece.missing?_eq_filter env piece

theorem missing_congr (h : AgreeOn (references text) env env') :
    env.missing text = env'.missing text := by
  rw [missing_eq_filter, missing_eq_filter]
  exact List.filter_congr fun name hname => by rw [h name hname]

theorem expand_congr (h : AgreeOn (references text) env env') :
    env.expand text = env'.expand text := by
  rw [expand, expand]
  congr 1
  refine List.flatMap_congr fun piece hpiece => Piece.expand_congr fun name hname => ?_
  exact h name (List.mem_filterMap.mpr ⟨piece, hpiece, hname⟩)

theorem expand_of_references_eq_nil (h : references text = []) : env.expand text = text := by
  have hsource (piece : Piece) (hpiece : piece ∈ Piece.ofText text.toList) :
      piece.expand env = piece.source :=
    Piece.expand_eq_source (List.filterMap_eq_nil_iff.mp h piece hpiece)
  rw [expand, List.flatMap_congr hsource, Piece.flatMap_source_ofText, String.ofList_toList]

def defining (names : List String) : Environment := names.map fun name => (name, .text "")

theorem isSome_get?_defining {names : List String} {name : String} (h : name ∈ names) :
    ((defining names).get? name).isSome := by
  induction names with
  | nil => exact absurd h List.not_mem_nil
  | cons first names ih =>
    by_cases hfirst : name = first
    · subst hfirst
      simp [get?, find, defining, Except.toOption]
    · have hname := ih (List.mem_of_ne_of_mem hfirst h)
      simpa [get?, find, defining, List.lookup_cons, beq_eq_false_iff_ne.mpr hfirst] using hname

theorem missing_defining (text : String) : (defining (references text)).missing text = [] := by
  rw [missing_eq_filter, List.filter_eq_nil_iff]
  intro name hname
  simpa [Option.isSome_iff_ne_none] using isSome_get?_defining hname

theorem missing_nil (text : String) : missing [] text = references text := by
  rw [missing_eq_filter, List.filter_eq_self]
  intro name _
  rfl

end Text

end Environment
end RowBatch
