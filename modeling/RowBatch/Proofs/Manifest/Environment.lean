import RowBatch.Proofs.Manifest.RoundTrip
import RowBatch.Proofs.Markup.Search

/-!
How the environment changes what a written manifest is read as. Writing neither makes nor breaks a
reference to a variable: the written text refers to one just where the texts of the manifest do, put
on lines of their own. Then the environment counts, and else it does not.
-/

namespace RowBatch

open Environment (Progress isMark Refers references AgreeOn)

namespace Manifest

def texts (m : Manifest) : List String :=
  m.table :: (m.insertFields ++ m.conflictFields ++ m.expressionFields ++ m.returnFields)

def onLines (texts : List String) : List Char := texts.flatMap fun s => s.toList ++ ['\n']

section Entries

variable {p : Progress}

theorem onLines_append (texts further : List String) :
    onLines (texts ++ further) = onLines texts ++ onLines further :=
  List.flatMap_append

theorem run_onLines_cons (p : Progress) (s : String) (texts : List String) :
    p.run (onLines (s :: texts)) = ((p.run s.toList).step '\n').run (onLines texts) := by
  simp [onLines]

theorem settled_onLines (texts : List String) (hp : p.Settled) :
    (p.run (onLines texts)).Settled := by
  induction texts generalizing p with
  | nil => exact hp
  | cons s texts ih =>
    rw [run_onLines_cons]
    exact ih (Progress.settled_step _)

theorem run_line (value : String) (hp : p.Settled) :
    p.run (Markup.Written.line value.toList) = (p.run value.toList).step '\n' :=
  (Markup.Written.writtenAs_line value.toList).run_eq hp

theorem run_items (texts : List String) (hp : p.Settled) :
    p.run (texts.flatMap item) = p.run (onLines texts) := by
  induction texts generalizing p with
  | nil => rfl
  | cons s texts ih =>
    have hdash : "- ".toList.any isMark = false := by decide
    rw [List.flatMap_cons, item, Progress.run_append, Progress.run_append, hp.run_eq hdash,
      run_line s hp, run_onLines_cons]
    exact ih (Progress.settled_step _)

theorem run_key (entry : Entry) {gap : List Char} (hgap : gap.any isMark = false)
    (hp : p.Settled) : p.run (entry.name.toList ++ gap) = p := by
  have hname : entry.name.toList.any isMark = false := by
    cases entry <;> decide
  rw [Progress.run_append, hp.run_eq hname, hp.run_eq hgap]

theorem run_bareEntry (entry : Entry) {word : String} (hword : word.toList.any isMark = false)
    (hp : p.Settled) : p.run (bareEntry entry word) = p := by
  have hcolon : ": ".toList.any isMark = false := by decide
  have hbreak : ['\n'].any isMark = false := by decide
  rw [bareEntry, Progress.run_append, Progress.run_append, run_key entry hcolon hp,
    hp.run_eq hword, hp.run_eq hbreak]

theorem run_textEntry (entry : Entry) (value : String) (hp : p.Settled) :
    p.run (textEntry entry value) = p.run (onLines [value]) := by
  rw [textEntry, Progress.run_append, run_key entry (by decide) hp, run_line value hp,
    run_onLines_cons]
  rfl

theorem run_listEntry (entry : Entry) (texts : List String) (hp : p.Settled) :
    p.run (listEntry entry texts) = p.run (onLines texts) := by
  unfold listEntry
  split
  · rename_i hempty
    obtain rfl := List.isEmpty_iff.mp hempty
    exact run_bareEntry entry (by decide) hp
  · rw [Progress.run_append, run_key entry (by decide) hp]
    exact run_items texts hp

theorem run_optionalEntry (entry : Entry) (texts : List String) (hp : p.Settled) :
    p.run (optionalEntry entry texts) = p.run (onLines texts) := by
  unfold optionalEntry
  split
  · rename_i hempty
    obtain rfl := List.isEmpty_iff.mp hempty
    rfl
  · exact run_listEntry entry texts hp

end Entries

/-- The search in a written manifest comes to the same end as that in its texts. -/
theorem run_chars (m : Manifest) :
    Progress.nothing.run m.chars = Progress.nothing.run (onLines m.texts) := by
  have hcount := any_isMark_of_isIdentifier (isIdentifier_repr m.operationsPerStatement.toNat)
  have hstatement := any_isMark_of_isIdentifier (isIdentifier_statementName m.statement)
  have htable := settled_onLines [m.table] Progress.settled_nothing
  have hinsert := settled_onLines m.insertFields htable
  have hconflict := settled_onLines m.conflictFields hinsert
  have hexpression := settled_onLines m.expressionFields hconflict
  have htexts : onLines m.texts = onLines [m.table] ++ onLines m.insertFields ++
      onLines m.conflictFields ++ onLines m.expressionFields ++ onLines m.returnFields := by
    rw [← onLines_append, ← onLines_append, ← onLines_append, ← onLines_append, texts]
    simp
  rw [htexts]
  simp only [chars, Progress.run_append]
  rw [run_textEntry .table m.table Progress.settled_nothing, run_bareEntry _ hcount htable,
    run_bareEntry _ hstatement htable, run_listEntry _ m.insertFields htable,
    run_optionalEntry _ m.conflictFields hinsert, run_optionalEntry _ m.expressionFields hconflict,
    run_optionalEntry _ m.returnFields hexpression]

/-- Writing neither makes nor breaks a reference. -/
theorem refers_text_iff (m : Manifest) : Refers m.text.toList ↔ Refers (onLines m.texts) := by
  rw [text, String.toList_ofList, Environment.refers_iff_run, Environment.refers_iff_run, run_chars]

section Reading

variable {E₁ E₂ : Environment} {text : String}

theorem parse_congr (h : AgreeOn (references text) E₁ E₂) : parse E₁ text = parse E₂ text := by
  rw [parse, parse, Environment.missing_congr h, Environment.expand_congr h]

theorem parse_of_references_eq_nil (E : Environment) (h : references text = []) :
    parse E text = (ofDocument (Markup.Document.ofText text.toList)).mapError .faulty := by
  have hmissing : E.missing text = [] := by rw [Environment.missing_eq_filter, h, List.filter_nil]
  rw [parse, hmissing, Environment.expand_of_references_eq_nil h]

theorem exists_parse_ne (h : references text ≠ []) : ∃ E₁ E₂, parse E₁ text ≠ parse E₂ text := by
  obtain ⟨name, names, hnames⟩ := List.exists_cons_of_ne_nil h
  have hrefused : parse [] text = .error (.undefinedVariable name) := by
    rw [parse, Environment.missing_nil, hnames]
  refine ⟨[], Environment.defining (references text), ?_⟩
  rw [hrefused, parse, Environment.missing_defining]
  cases ofDocument _ <;> simp [Except.mapError]

end Reading

/-- What a written manifest is read as depends on the environment only through the variables that
the text refers to. It does not depend on it at all just where the texts of the manifest refer to no
variable, and then the manifest is read back in every environment. -/
theorem reads_alike_iff_not_refers (m : Manifest) :
    ∃ text, write .file m = .ok text ∧
      (∀ E₁ E₂, AgreeOn (references text) E₁ E₂ → parse E₁ text = parse E₂ text) ∧
      ((∀ E₁ E₂, parse E₁ text = parse E₂ text) ↔ ¬Refers (onLines m.texts)) ∧
      (¬Refers (onLines m.texts) → ∀ E, parse E text = .ok m) := by
  have hrefers : references m.text = [] ↔ ¬Refers (onLines m.texts) := by
    rw [Environment.references_eq_nil_iff, refers_text_iff]
  have hread (hnone : references m.text = []) (E : Environment) : parse E m.text = .ok m := by
    rw [parse_of_references_eq_nil E hnone, ofDocument_text]
    rfl
  refine ⟨m.text, rfl, fun E₁ E₂ => parse_congr, ?_, fun h => hread (hrefers.mpr h)⟩
  rw [← hrefers]
  constructor
  · intro hsame
    by_contra hsome
    obtain ⟨E₁, E₂, hne⟩ := exists_parse_ne hsome
    exact hne (hsame E₁ E₂)
  · intro hnone E₁ E₂
    rw [hread hnone, hread hnone]

def intoTable (table : String) : Manifest := ⟨table, 5, .insertIgnore, ["id"], [], [], []⟩

def behindTable : List Char :=
  '\n' :: ("operations_per_statement: 5\n".toList ++ ("statement: insert_ignore\n".toList ++
    "insert_fields:\n- id\n".toList))

section Sample

open Environment (Piece)
open Markup.Written (line allowsPlain hasMark startsWith isStartMark line_of_allowsPlain
  allowsPlain_of_identifier)

theorem allowsPlain_reference : allowsPlain "$\x7bA\x7d".toList = true := by
  have hstart : startsWith isStartMark "$\x7bA\x7d".toList = false := by
    simp [startsWith, isStartMark, Markup.isFlowMark]
  have hmark : hasMark "$\x7bA\x7d".toList = false := by
    rw [hasMark, hstart]
    decide
  rw [allowsPlain, hmark]
  decide

theorem intoTable_chars {table : String}
    (htable : line table.toList = table.toList ++ ['\n']) :
    (intoTable table).chars =
      Entry.table.name.toList ++ ": ".toList ++ (table.toList ++ behindTable) := by
  have hname : ∀ c ∈ "id".toList, isIdentifierChar c = true := (by decide : IsIdentifier "id").2
  have hid : line "id".toList = "id".toList ++ ['\n'] :=
    (line_of_allowsPlain (by decide) (by decide) (allowsPlain_of_identifier hname)).2
  have hcount : bareEntry .operationsPerStatement (Nat.repr (5 : UInt64).toNat) =
      "operations_per_statement: 5\n".toList := by decide
  have hstatement : bareEntry .statement (statementName .insertIgnore) =
      "statement: insert_ignore\n".toList := by decide
  have hinsert : listEntry .insertFields ["id"] = "insert_fields:\n- id\n".toList := by
    rw [listEntry, if_neg (by decide), List.flatMap_singleton, item, hid]
    decide
  show textEntry .table table ++ bareEntry .operationsPerStatement (Nat.repr (5 : UInt64).toNat) ++
    bareEntry .statement (statementName .insertIgnore) ++ listEntry .insertFields ["id"] ++
      [] ++ [] ++ [] = _
  rw [textEntry, htable, hcount, hstatement, hinsert, behindTable]
  simp only [List.append_nil, List.append_assoc, List.cons_append, List.nil_append]

theorem intoTable_ledger : (intoTable "ledger").chars =
    Entry.table.name.toList ++ ": ".toList ++ ("ledger".toList ++ behindTable) := by
  have hname : ∀ c ∈ "ledger".toList, isIdentifierChar c = true :=
    (by decide : IsIdentifier "ledger").2
  exact intoTable_chars
    (line_of_allowsPlain (by decide) (by decide) (allowsPlain_of_identifier hname)).2

theorem intoTable_reference : Piece.ofText (intoTable "$\x7bA\x7d").text.toList =
    (Entry.table.name.toList ++ ": ".toList).map .char ++
      .reference ['A'] :: behindTable.map .char := by
  have htable : line "$\x7bA\x7d".toList = "$\x7bA\x7d".toList ++ ['\n'] :=
    (line_of_allowsPlain (by decide) (by decide) allowsPlain_reference).2
  have hbehind : Piece.ofText behindTable = behindTable.map .char := by
    have hdollar : '$' ∉ behindTable := by decide
    simpa [Piece.ofText] using Piece.ofText_append hdollar []
  have hreference : Piece.ofText ("$\x7bA\x7d".toList ++ behindTable) =
      .reference ['A'] :: Piece.ofText behindTable := Piece.ofText_reference rfl
  rw [text, String.toList_ofList, intoTable_chars htable, Piece.ofText_append (by decide),
    hreference, hbehind]

/-- The name of a table is taken for a reference to a variable. -/
theorem intoTable_reads_apart :
    write .file (intoTable "$\x7bA\x7d") = .ok (intoTable "$\x7bA\x7d").text ∧
      parse [] (intoTable "$\x7bA\x7d").text = .error (.undefinedVariable "A") ∧
      parse [("A", .text "ledger")] (intoTable "$\x7bA\x7d").text = .ok (intoTable "ledger") := by
  have hreferences : references (intoTable "$\x7bA\x7d").text = ["A"] := by
    rw [references, intoTable_reference, List.filterMap_append, Piece.filterMap_name?_char,
      List.filterMap_cons, Piece.filterMap_name?_char]
    rfl
  have hexpanded : Environment.expand [("A", .text "ledger")] (intoTable "$\x7bA\x7d").text =
      (intoTable "ledger").text := by
    rw [Environment.expand, intoTable_reference, text, intoTable_ledger, List.flatMap_append,
      List.flatMap_cons, Piece.flatMap_expand_char, Piece.flatMap_expand_char]
    rfl
  refine ⟨rfl, ?_, ?_⟩
  · rw [parse, Environment.missing_eq_filter, hreferences]
    rfl
  · rw [parse, Environment.missing_eq_filter, hreferences, hexpanded]
    show Except.mapError _ (ofDocument _) = _
    rw [ofDocument_text]
    rfl

end Sample

end Manifest
end RowBatch
