import Mathlib.Data.List.Forall2
import RowBatch.Manifest.File
import RowBatch.Proofs.Environment.Reference

/-!
What a text with references means, told without the search for them. A text has one reading from the
left; a manifest is read from the text in which every reference gave way to the value of its variable,
and is refused for the first reference whose variable has none.
-/

namespace RowBatch
namespace Environment

/-- A reference with this name stands at the start of a text, and `rest` behind it. Any character but
a closing brace can belong to the name. -/
structure Opens (cs name rest : List Char) : Prop where
  text_eq : cs = '$' :: '\x7b' :: (name ++ '\x7d' :: rest)
  name_ne : name ≠ []
  closed : '\x7d' ∉ name

/-- A text read from the left. Where a reference stands it is read as a whole, and reading goes on
behind it; where none stands, the next character is ordinary text. -/
inductive Reads : List Char → List Piece → Prop
  | done : Reads [] []
  | reference {cs name rest pieces} (hopens : Opens cs name rest) (hrest : Reads rest pieces) :
      Reads cs (.reference name :: pieces)
  | char {c rest pieces} (hnone : ∀ name after, ¬Opens (c :: rest) name after)
      (hrest : Reads rest pieces) : Reads (c :: rest) (.char c :: pieces)

section Reads

variable {cs name rest : List Char} {pieces : List Piece}

theorem opens_iff :
    Opens ('$' :: '\x7b' :: cs) name rest ↔ Piece.readName? cs = some (name, rest) := by
  rw [Piece.readName?_eq_some_iff]
  constructor
  · rintro ⟨heq, hne, hclosed⟩
    exact ⟨(List.cons.inj (List.cons.inj heq).2).2, hne, hclosed⟩
  · rintro ⟨rfl, hne, hclosed⟩
    exact ⟨rfl, hne, hclosed⟩

theorem reads_ofText (cs : List Char) : Reads cs (Piece.ofText cs) := by
  induction cs using Piece.ofText.induct with
  | case1 =>
    rw [Piece.ofText]
    exact .done
  | case2 rest name after hread ih =>
    rw [Piece.ofText_reference hread]
    exact .reference (opens_iff.mpr hread) ih
  | case3 rest hread ih =>
    rw [Piece.ofText_dollar hread]
    refine .char (fun name after hopens => ?_) ih
    rw [opens_iff, hread] at hopens
    cases hopens
  | case4 c rest hstart ih =>
    rw [Piece.ofText_char hstart]
    refine .char (fun name after hopens => ?_) ih
    obtain ⟨rfl, hrest⟩ := List.cons.inj hopens.text_eq
    exact hstart _ rfl hrest

theorem Reads.eq_ofText (h : Reads cs pieces) : pieces = Piece.ofText cs := by
  induction h with
  | done => rw [Piece.ofText]
  | reference hopens _ ih =>
    obtain rfl := hopens.text_eq
    rw [Piece.ofText_reference (opens_iff.mp hopens), ih]
  | @char c rest pieces hnone _ ih =>
    by_cases hstart : ∃ more, c = '$' ∧ rest = '\x7b' :: more
    · obtain ⟨more, rfl, rfl⟩ := hstart
      have hread : Piece.readName? more = none := by
        rw [Option.eq_none_iff_forall_ne_some]
        rintro ⟨name, after⟩ hread
        exact hnone name after (opens_iff.mpr hread)
      rw [Piece.ofText_dollar hread, ih]
    · rw [Piece.ofText_char fun more hc hrest => hstart ⟨more, hc, hrest⟩, ih]

theorem reads_iff : Reads cs pieces ↔ pieces = Piece.ofText cs :=
  ⟨Reads.eq_ofText, fun h => h ▸ reads_ofText cs⟩

/-- The name of a reference ends at the first closing brace, even if another one has begun inside. -/
example : Reads "$\x7b$\x7bA\x7d\x7d".toList [.reference "$\x7bA".toList, .char '\x7d'] := by
  refine .reference ⟨rfl, by decide, by decide⟩ (.char (fun name after hopens => ?_) .done)
  simpa using hopens.text_eq

end Reads

/-- What a piece stands for: a character for itself, and a reference for the value of its variable. -/
inductive Stands (env : Environment) : Piece → List Char → Prop
  | char (c : Char) : Stands env (.char c) [c]
  | reference {name value} (hvalue : env.get? (String.ofList name) = some value) :
      Stands env (.reference name) value.toList

section Values

variable {env : Environment} {piece : Piece} {text name : String}

theorem missing?_eq_some_iff :
    piece.missing? env = some name ↔ piece = .reference name.toList ∧ env.get? name = none := by
  cases piece with
  | char c => simp [Piece.missing?]
  | reference chars =>
    rw [Piece.missing?_eq_filter, Piece.name?, Option.filter_eq_some_iff, Option.some.injEq,
      Option.isNone_iff_eq_none, Piece.reference.injEq]
    constructor
    · rintro ⟨rfl, hnone⟩
      exact ⟨String.toList_ofList.symm, hnone⟩
    · rintro ⟨rfl, hnone⟩
      rw [String.ofList_toList]
      exact ⟨rfl, hnone⟩

theorem missing?_eq_none_iff : piece.missing? env = none ↔
    ∀ chars, piece = .reference chars → env.get? (String.ofList chars) ≠ none := by
  rw [Option.eq_none_iff_forall_ne_some]
  constructor
  · rintro h chars rfl hnone
    exact h (String.ofList chars) (missing?_eq_some_iff.mpr ⟨by simp, hnone⟩)
  · intro h name hname
    obtain ⟨rfl, hnone⟩ := missing?_eq_some_iff.mp hname
    exact h name.toList rfl (by rwa [String.ofList_toList])

theorem stands_expand (h : piece.missing? env = none) : Stands env piece (piece.expand env) := by
  cases piece with
  | char c => exact .char c
  | reference chars =>
    obtain ⟨value, hvalue⟩ := Option.ne_none_iff_exists'.mp (missing?_eq_none_iff.mp h chars rfl)
    rw [Piece.expand, hvalue]
    exact .reference hvalue

theorem head?_missing_eq_some_iff : (env.missing text).head? = some name ↔
    ∃ earlier later, Piece.ofText text.toList = earlier ++ .reference name.toList :: later ∧
      env.get? name = none ∧
      ∀ chars, .reference chars ∈ earlier → env.get? (String.ofList chars) ≠ none := by
  rw [missing, List.head?_filterMap, List.findSome?_eq_some_iff]
  constructor
  · rintro ⟨earlier, piece, later, hpieces, hpiece, hearlier⟩
    obtain ⟨rfl, hnone⟩ := missing?_eq_some_iff.mp hpiece
    refine ⟨earlier, later, hpieces, hnone, fun chars hmem => ?_⟩
    exact missing?_eq_none_iff.mp (hearlier _ hmem) chars rfl
  · rintro ⟨earlier, later, hpieces, hnone, hearlier⟩
    refine ⟨earlier, _, later, hpieces, missing?_eq_some_iff.mpr ⟨rfl, hnone⟩, fun piece hmem => ?_⟩
    exact missing?_eq_none_iff.mpr fun chars heq => hearlier chars (heq ▸ hmem)

end Values

end Environment

namespace Manifest

open Environment (Piece Reads Stands)

theorem parse_eq_undefined_iff {env : Environment} {text name : String} :
    parse env text = .error (.undefinedVariable name) ↔ (env.missing text).head? = some name := by
  unfold parse
  cases hmissing : env.missing text with
  | nil => cases ofDocument _ <;> simp [Except.mapError]
  | cons first names => simp

/-- Reading a manifest follows the one reading of its text from the left. The answer is that a
variable is undefined just when a reference has no value, and then it names the first of these,
whatever else the text holds. Otherwise what is read is the text in which each reference gave way to
its value, and each other character stands as it is; a value is put in as it is, so that nothing in
it, or in it together with what is around it, is taken for a reference. -/
theorem parse_follows_reading (env : Environment) (text : String) : ∃ pieces,
    (∀ others, Reads text.toList others ↔ others = pieces) ∧
      (∀ name, parse env text = .error (.undefinedVariable name) ↔
        ∃ earlier later, pieces = earlier ++ .reference name.toList :: later ∧
          env.get? name = none ∧
          ∀ chars, .reference chars ∈ earlier → env.get? (String.ofList chars) ≠ none) ∧
      ((∀ chars, .reference chars ∈ pieces → env.get? (String.ofList chars) ≠ none) →
        ∃ parts, List.Forall₂ (Stands env) pieces parts ∧
          parse env text =
            (ofDocument (Markup.Document.ofText parts.flatten)).mapError .faulty) := by
  refine ⟨Piece.ofText text.toList, fun others => Environment.reads_iff, fun name => ?_, ?_⟩
  · rw [parse_eq_undefined_iff, Environment.head?_missing_eq_some_iff]
  · intro hset
    have hnone : ∀ piece ∈ Piece.ofText text.toList, piece.missing? env = none := by
      intro piece hmem
      exact Environment.missing?_eq_none_iff.mpr fun chars heq => hset chars (heq ▸ hmem)
    have hmissing : env.missing text = [] := List.filterMap_eq_nil_iff.mpr hnone
    refine ⟨(Piece.ofText text.toList).map (Piece.expand env), ?_, ?_⟩
    · rw [List.forall₂_map_right_iff, List.forall₂_same]
      exact fun piece hmem => Environment.stands_expand (hnone piece hmem)
    · rw [parse, hmissing, Environment.expand, String.toList_ofList, List.flatMap_def]

end Manifest
end RowBatch
