import RowBatch.Manifest.File
import RowBatch.Proofs.Markup.Mapping
import RowBatch.Proofs.Markup.Numeral

/-!
A manifest is read back from the text that it is written as: whatever its texts hold, however long
its lists are, and whichever of them were left out.
-/

namespace RowBatch
namespace Manifest

open Markup (Content Document Event Pair)
open Markup.Content (scalarEvent)

abbrev textNode (s : String) : Node := [scalarEvent Nat s]

def pairNodes (p : Pair) : List Node :=
  [[.scalar none none p.key.toList .plain], p.content.events Nat]

section Nodes

variable {rest : List (Event Nat)}

theorem cutNodes_scalars (texts : List String) (node : Node) :
    cutNodes 1 node (texts.map (scalarEvent Nat) ++ .sequenceEnd :: rest) =
      ((node.reverse ++ texts.map (scalarEvent Nat) ++ [.sequenceEnd]) :: (children rest).1,
        (children rest).2) := by
  induction texts generalizing node with
  | nil => simp [cutNodes, children, Event.opens, Event.closes]
  | cons s texts ih =>
    have hs (more : List (Event Nat)) :
        cutNodes 1 node (scalarEvent Nat s :: more) =
          cutNodes 1 (scalarEvent Nat s :: node) more := by
      simp [cutNodes, scalarEvent, Event.opens, Event.closes]
    rw [List.map_cons, List.cons_append, hs, ih]
    simp

theorem children_content (c : Content) :
    children (c.events Nat ++ rest) = (c.events Nat :: (children rest).1, (children rest).2) := by
  match c with
  | .text s => rfl
  | .word s _ => rfl
  | .list texts =>
    have hlist (more : List (Event Nat)) :
        children (.sequenceStart none none :: more) =
          cutNodes 1 [.sequenceStart none none] more := rfl
    simp only [Content.events, List.cons_append, List.append_assoc]
    rw [hlist]
    simpa using cutNodes_scalars texts [.sequenceStart none none]

theorem children_pairs (pairs : List Pair) :
    children (pairs.flatMap (Pair.events Nat) ++ [.mappingEnd]) =
      (pairs.flatMap pairNodes, true) := by
  induction pairs with
  | nil => rfl
  | cons p pairs ih =>
    have hkey (more : List (Event Nat)) :
        children (.scalar none none p.key.toList .plain :: more) =
          ([.scalar none none p.key.toList .plain] :: (children more).1, (children more).2) := rfl
    rw [List.flatMap_cons, Pair.events, List.append_assoc, List.cons_append, hkey,
      children_content, ih]
    rfl

theorem children_scalars (texts : List String) :
    children (texts.map (scalarEvent Nat) ++ [.sequenceEnd]) = (texts.map textNode, true) := by
  induction texts with
  | nil => rfl
  | cons s texts ih =>
    have hs (more : List (Event Nat)) :
        children (scalarEvent Nat s :: more) =
          (textNode s :: (children more).1, (children more).2) := rfl
    rw [List.map_cons, List.cons_append, hs, ih]
    rfl

end Nodes

section Values

variable (d : Document)

theorem text?_text (s : String) : text? d ((Content.text s).events Nat) = some s := by
  show some (String.ofList s.toList) = some s
  rw [String.ofList_toList]

theorem mapM_text? (texts : List String) : (texts.map textNode).mapM (text? d) = some texts := by
  induction texts with
  | nil => rfl
  | cons s texts ih =>
    have hs : text? d (textNode s) = some s := text?_text d s
    rw [List.map_cons, List.mapM_cons, hs, ih]
    rfl

theorem texts?_list (texts : List String) :
    texts? d ((Content.list texts).events Nat) = some texts := by
  simp only [texts?, Content.events, List.cons_append, follow, children_scalars]
  exact mapM_text? d texts

theorem count?_repr (n : UInt64) (h : IsIdentifier (Nat.repr n.toNat)) :
    count? d ((Content.word (Nat.repr n.toNat) h).events Nat) = some n := by
  simp [count?, Content.events, follow, Markup.Meaning.unsigned?_toDigits, n.toNat_lt]

theorem statementOf_name (key : String) (kind : StatementKind)
    (h : IsIdentifier (statementName kind)) :
    statementOf d key ((Content.word (statementName kind) h).events Nat) = .ok kind := by
  cases kind <;> rfl

end Values

def pair (entry : Entry) (content : Content) : Pair where
  key := entry.name
  isIdentifier := by cases entry <;> decide
  length_le := by cases entry <;> decide
  content := content

def optionalPair (entry : Entry) (texts : List String) : List Pair :=
  if texts.isEmpty then [] else [pair entry (.list texts)]

theorem isIdentifier_repr (n : Nat) : IsIdentifier (Nat.repr n) := by
  refine ⟨fun h => ?_, fun c hc => ?_⟩
  · exact Nat.toDigits_ne_nil (by rw [← Nat.toList_repr, h]; rfl)
  · rw [Nat.toList_repr] at hc
    have hdigit := Nat.isDigit_of_mem_toDigits (b := 10) (by decide) (by decide) hc
    simp [isIdentifierChar, Char.isAlphanum, hdigit]

theorem isIdentifier_statementName (kind : StatementKind) : IsIdentifier (statementName kind) := by
  cases kind <;> decide

def requiredPairs (m : Manifest) : List Pair :=
  [pair .table (.text m.table),
    pair .operationsPerStatement
      (.word (Nat.repr m.operationsPerStatement.toNat) (isIdentifier_repr _)),
    pair .statement (.word (statementName m.statement) (isIdentifier_statementName _)),
    pair .insertFields (.list m.insertFields)]

def pairs (m : Manifest) : List Pair :=
  m.requiredPairs ++ optionalPair .conflictFields m.conflictFields ++
    optionalPair .expressionFields m.expressionFields ++
    optionalPair .returnFields m.returnFields

theorem textEntry_eq (entry : Entry) (value : String) :
    textEntry entry value = (pair entry (.text value)).written := by
  simp [textEntry, pair, Pair.written, Content.written]

theorem bareEntry_eq (entry : Entry) (word : String) (h : IsIdentifier word) :
    bareEntry entry word = (pair entry (.word word h)).written := by
  simp [bareEntry, pair, Pair.written, Content.written]

theorem listEntry_eq (entry : Entry) (texts : List String) :
    listEntry entry texts = (pair entry (.list texts)).written := by
  have hitem : item = Content.item := by
    funext s
    simp [item, Content.item]
  cases texts with
  | nil => simp [listEntry, bareEntry, pair, Pair.written, Content.written]
  | cons s further => simp [listEntry, hitem, pair, Pair.written, Content.written]

theorem optionalEntry_eq (entry : Entry) (texts : List String) :
    optionalEntry entry texts = (optionalPair entry texts).flatMap Pair.written := by
  cases texts with
  | nil => rfl
  | cons s further => simp [optionalEntry, optionalPair, listEntry_eq]

theorem chars_eq_pairs (m : Manifest) : m.chars = m.pairs.flatMap Pair.written := by
  simp [chars, pairs, requiredPairs, textEntry_eq, bareEntry_eq _ _ (isIdentifier_repr _),
    bareEntry_eq _ _ (isIdentifier_statementName _), listEntry_eq, optionalEntry_eq]

section Reading

variable {d : Document} {draft draft' : Draft} {rest : List Node}

theorem readEntries_pair {entry : Entry} {content : Content} (hhas : draft.has entry = false)
    (hread : draft.read d entry entry.name (content.events Nat) = .ok draft') :
    readEntries d true draft (pairNodes (pair entry content) ++ rest) =
      readEntries d true draft' rest := by
  have hname : text? d [.scalar none none entry.name.toList .plain] = some entry.name :=
    text?_text d entry.name
  simp [pairNodes, pair, readEntries, hname, hhas, shownKey, hread]

/-- What a draft has of a list that is left out when it is empty. -/
def kept (texts : List String) : Option (List String) :=
  if texts.isEmpty then none else some texts

@[simp] theorem getD_kept (texts : List String) : (kept texts).getD [] = texts := by
  cases texts <;> rfl

theorem readEntries_optionalPair {entry : Entry} {texts : List String}
    (set : Option (List String) → Draft) (hhas : (set none).has entry = false)
    (hread : ∀ node, texts? d node = some texts →
      (set none).read d entry entry.name node = .ok (set (some texts))) :
    readEntries d true (set none) ((optionalPair entry texts).flatMap pairNodes ++ rest) =
      readEntries d true (set (kept texts)) rest := by
  cases texts with
  | nil => rfl
  | cons s further =>
    rw [optionalPair, List.isEmpty_cons, if_neg (by simp), List.flatMap_singleton]
    exact readEntries_pair hhas (hread _ (texts?_list d _))

/-- The draft of a manifest, of which the lists that may be left out are as given. -/
def drafted (m : Manifest) (conflict expression returned : Option (List String)) : Draft :=
  ⟨some m.table, some m.operationsPerStatement, some m.statement, some m.insertFields, conflict,
    expression, returned⟩

theorem readEntries_requiredPairs (m : Manifest) :
    readEntries d true .empty (m.requiredPairs.flatMap pairNodes ++ rest) =
      readEntries d true (m.drafted none none none) rest := by
  have htable : Draft.empty.read d .table Entry.table.name ((Content.text m.table).events Nat) =
      .ok ⟨some m.table, none, none, none, none, none, none⟩ := by
    rw [Draft.read, text?_text]
    rfl
  have hcount : Draft.read d ⟨some m.table, none, none, none, none, none, none⟩
      .operationsPerStatement Entry.operationsPerStatement.name
      ((Content.word _ (isIdentifier_repr m.operationsPerStatement.toNat)).events Nat) =
        .ok ⟨some m.table, some m.operationsPerStatement, none, none, none, none, none⟩ := by
    rw [Draft.read, count?_repr]
    rfl
  have hstatement : Draft.read d
      ⟨some m.table, some m.operationsPerStatement, none, none, none, none, none⟩ .statement
      Entry.statement.name
      ((Content.word _ (isIdentifier_statementName m.statement)).events Nat) =
        .ok ⟨some m.table, some m.operationsPerStatement, some m.statement, none, none, none,
          none⟩ := by
    rw [Draft.read, statementOf_name]
    rfl
  have hinsert : Draft.read d
      ⟨some m.table, some m.operationsPerStatement, some m.statement, none, none, none, none⟩
      .insertFields Entry.insertFields.name ((Content.list m.insertFields).events Nat) =
        .ok (m.drafted none none none) := by
    rw [Draft.read, texts?_list]
    rfl
  simp only [requiredPairs, List.flatMap_cons, List.flatMap_nil, List.append_nil,
    List.append_assoc]
  rw [readEntries_pair rfl htable, readEntries_pair rfl hcount, readEntries_pair rfl hstatement,
    readEntries_pair rfl hinsert]

theorem readEntries_pairs (m : Manifest) :
    readEntries d true .empty (m.pairs.flatMap pairNodes) = .ok m := by
  have hconflict {rest : List Node} := @readEntries_optionalPair d rest .conflictFields
    m.conflictFields (fun texts => m.drafted texts none none) rfl
    fun node hnode => by rw [Draft.read, hnode]; rfl
  have hexpression {rest : List Node} := @readEntries_optionalPair d rest .expressionFields
    m.expressionFields (fun texts => m.drafted (kept m.conflictFields) texts none) rfl
    fun node hnode => by rw [Draft.read, hnode]; rfl
  have hreturned := @readEntries_optionalPair d [] .returnFields m.returnFields
    (fun texts => m.drafted (kept m.conflictFields) (kept m.expressionFields) texts) rfl
    fun node hnode => by rw [Draft.read, hnode]; rfl
  rw [List.append_nil] at hreturned
  simp only [pairs, List.flatMap_append, List.append_assoc]
  rw [readEntries_requiredPairs, hconflict, hexpression, hreturned]
  simp [readEntries, drafted, Draft.complete]

end Reading

/-- The document of a written manifest is read as the manifest. -/
theorem ofDocument_text (m : Manifest) : ofDocument (Document.ofText m.text.toList) = .ok m := by
  have hpairs : m.pairs ≠ [] := by simp [pairs, requiredPairs]
  have hdocument : Document.ofText m.text.toList =
      ⟨.mappingStart none none :: (m.pairs.flatMap (Pair.events Nat) ++ [.mappingEnd]), true⟩ := by
    rw [text, String.toList_ofList, chars_eq_pairs, Document.ofText_pairs hpairs]
  rw [hdocument]
  simp only [ofDocument, readEvents, children_pairs, readEntries_pairs, if_true]

/-- A manifest is read back from the text that is written to a file, field for field. -/
theorem written_reads_back (m : Manifest) :
    ∃ text, write .file m = .ok text ∧ ofDocument (Document.ofText text.toList) = .ok m :=
  ⟨m.text, rfl, m.ofDocument_text⟩

end Manifest
end RowBatch
