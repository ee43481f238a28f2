import RowBatch.Manifest.Basic
import RowBatch.Markup.Document
import RowBatch.Markup.Scalar.Meaning
import RowBatch.Markup.Scalar.Written

/-!
The text that a manifest is written as, and the manifest that a document describes. Entries are read
in the order of the document, and the first fault counts; entries that are missing are noticed at
the end.
-/

namespace RowBatch
namespace Manifest

def textEntry (entry : Entry) (value : String) : List Char :=
  entry.name.toList ++ ": ".toList ++ Markup.Written.line value.toList

def bareEntry (entry : Entry) (value : String) : List Char :=
  entry.name.toList ++ ": ".toList ++ value.toList ++ ['\n']

def item (text : String) : List Char := "- ".toList ++ Markup.Written.line text.toList

def listEntry (entry : Entry) (texts : List String) : List Char :=
  if texts.isEmpty then bareEntry entry "[]"
  else entry.name.toList ++ ":\n".toList ++ texts.flatMap item

def optionalEntry (entry : Entry) (texts : List String) : List Char :=
  if texts.isEmpty then [] else listEntry entry texts

def chars (m : Manifest) : List Char :=
  textEntry .table m.table ++
    bareEntry .operationsPerStatement (Nat.repr m.operationsPerStatement.toNat) ++
    bareEntry .statement (statementName m.statement) ++
    listEntry .insertFields m.insertFields ++
    optionalEntry .conflictFields m.conflictFields ++
    optionalEntry .expressionFields m.expressionFields ++
    optionalEntry .returnFields m.returnFields

def text (m : Manifest) : String := String.ofList m.chars

open Markup (Document Event ScalarStyle)

/-- The events of a node, or those that there are of it. -/
abbrev Node := List (Event Nat)

/-- Cuts the events inside a collection into its nodes, and tells whether its end is among them.
`depth` collections of the node that is being read are open, and `node` holds its events, the latest
first. -/
def cutNodes : Nat → Node → List (Event Nat) → List Node × Bool
  | _, [], [] => ([], false)
  | _, node, [] => ([node.reverse], false)
  | 0, _, e :: rest =>
    if e.closes then ([], true)
    else if e.opens then cutNodes 1 [e] rest
    else
      let (nodes, closed) := cutNodes 0 [] rest
      ([e] :: nodes, closed)
  | depth + 1, node, e :: rest =>
    if e.opens then cutNodes (depth + 2) (e :: node) rest
    else if e.closes && depth == 0 then
      let (nodes, closed) := cutNodes 0 [] rest
      ((e :: node).reverse :: nodes, closed)
    else cutNodes (if e.closes then depth else depth + 1) (e :: node) rest

def children (events : List (Event Nat)) : List Node × Bool := cutNodes 0 [] events

/-- The node itself, or the one that an alias stands for with the events that follow it. -/
def follow (d : Document) (node : Node) : Node :=
  match node with
  | [.alias anchor] => (d.target? anchor).getD []
  | node => node

def text? (d : Document) (node : Node) : Option String :=
  match follow d node with
  | .scalar _ _ text _ :: _ => some (String.ofList text)
  | _ => none

/-- A list of texts; nothing stands for the empty one. -/
def texts? (d : Document) (node : Node) : Option (List String) :=
  match follow d node with
  | .sequenceStart _ _ :: rest =>
    match children rest with
    | (nodes, true) => nodes.mapM (text? d)
    | (_, false) => none
  | .scalar _ _ [] .plain :: _ => some []
  | _ => none

def integerTag : List Char := "tag:yaml.org,2002:int".toList

/-- A count is a plain number of up to eight bytes. -/
def count? (d : Document) (node : Node) : Option UInt64 :=
  match follow d node with
  | .scalar _ tag text style :: _ =>
    if style = .plain ∨ (style = .literal ∧ tag = some integerTag) then
      match Markup.Meaning.unsigned? text with
      | some n => if n < 2 ^ 64 then some (UInt64.ofNat n) else none
      | none => none
    else none
  | _ => none

def ownTag? (tag : Option (List Char)) : Option (List Char) :=
  match tag with
  | some ['!'] => some ['!']
  | some ('!' :: name) => some name
  | _ => none

def taggedStatement (tag : List Char) (bare : Bool) : Except Fault StatementKind :=
  match statement? (String.ofList tag) with
  | none => .error (.unknownStatement none (String.ofList tag))
  | some kind => if bare then .ok kind else .error .malformed

/-- The kind of a statement is a text, or the tag of a node that holds nothing. -/
def statementOf (d : Document) (key : String) (node : Node) : Except Fault StatementKind :=
  match follow d node with
  | .scalar _ tag text style :: _ =>
    match ownTag? tag with
    | some name =>
      taggedStatement name (decide (style = .plain) && Markup.Meaning.isNull text)
    | none =>
      match statement? (String.ofList text) with
      | some kind => .ok kind
      | none => .error (.unknownStatement (some key) (String.ofList text))
  | .sequenceStart _ tag :: _ | .mappingStart _ tag :: _ =>
    match ownTag? tag with
    | some name => taggedStatement name false
    | none => .error .malformed
  | _ => .error .malformed

structure Draft where
  table : Option String
  operationsPerStatement : Option UInt64
  statement : Option StatementKind
  insertFields : Option (List String)
  conflictFields : Option (List String)
  expressionFields : Option (List String)
  returnFields : Option (List String)

namespace Draft

def empty : Draft := ⟨none, none, none, none, none, none, none⟩

def has (m : Draft) : Entry → Bool
  | .table => m.table.isSome
  | .operationsPerStatement => m.operationsPerStatement.isSome
  | .statement => m.statement.isSome
  | .insertFields => m.insertFields.isSome
  | .conflictFields => m.conflictFields.isSome
  | .expressionFields => m.expressionFields.isSome
  | .returnFields => m.returnFields.isSome

def orMalformed {α : Type} (value : Option α) : Except Fault α :=
  match value with
  | some a => .ok a
  | none => .error .malformed

def read (d : Document) (m : Draft) (entry : Entry) (key : String) (node : Node) :
    Except Fault Draft :=
  match entry with
  | .table => (orMalformed (text? d node)).map fun v => { m with table := some v }
  | .operationsPerStatement =>
    (orMalformed (count? d node)).map fun v => { m with operationsPerStatement := some v }
  | .statement => (statementOf d key node).map fun v => { m with statement := some v }
  | .insertFields => (orMalformed (texts? d node)).map fun v => { m with insertFields := some v }
  | .conflictFields =>
    (orMalformed (texts? d node)).map fun v => { m with conflictFields := some v }
  | .expressionFields =>
    (orMalformed (texts? d node)).map fun v => { m with expressionFields := some v }
  | .returnFields => (orMalformed (texts? d node)).map fun v => { m with returnFields := some v }

def complete (m : Draft) : Except Fault Manifest :=
  match m.table, m.operationsPerStatement, m.statement, m.insertFields with
  | none, _, _, _ => .error (.missingEntry .table)
  | _, none, _, _ => .error (.missingEntry .operationsPerStatement)
  | _, _, none, _ => .error (.missingEntry .statement)
  | _, _, _, none => .error (.missingEntry .insertFields)
  | some table, some operations, some statement, some insert =>
    .ok ⟨table, operations, statement, insert, m.conflictFields.getD [],
      m.expressionFields.getD [], m.returnFields.getD []⟩

end Draft

/-- How a message shows the key of a value: that of an alias is not known. -/
def shownKey (key : Node) (name : String) : String :=
  match key with
  | [.alias _] => "?"
  | _ => name

/-- Reads keys and values in turn. Other keys than those of the entries are skipped with their
values. `closed` says whether the end of the mapping follows. -/
def readEntries (d : Document) (closed : Bool) : Draft → List Node → Except Fault Manifest
  | m, [] => if closed then m.complete else .error .malformed
  | m, key :: rest =>
    match text? d key with
    | none => .error .malformed
    | some name =>
      match Entry.ofName? name, rest with
      | none, [] => .error .malformed
      | none, _ :: rest => readEntries d closed m rest
      | some entry, rest =>
        if m.has entry then .error (.duplicateEntry entry)
        else
          match rest with
          | [] => .error .malformed
          | value :: rest =>
            match m.read d entry (shownKey key name) value with
            | .error fault => .error fault
            | .ok m => readEntries d closed m rest

/-- Reads the events of a document. One that is empty is an empty mapping. -/
def readEvents (d : Document) : Except Fault Manifest :=
  match d.events with
  | .mappingStart _ _ :: rest => readEntries d (children rest).2 .empty (children rest).1
  | .scalar _ _ [] .plain :: _ => readEntries d true .empty []
  | [] => readEntries d d.sound .empty []
  | _ => .error .malformed

/-- The manifest of a document, which must be sound to its end. -/
def ofDocument (d : Document) : Except Fault Manifest :=
  match readEvents d with
  | .error fault => .error fault
  | .ok m => if d.sound then .ok m else .error .malformed

end Manifest
end RowBatch
