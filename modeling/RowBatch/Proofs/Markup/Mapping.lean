import RowBatch.Markup.Document
import RowBatch.Proofs.Markup.Line

/-!
A mapping from names to texts and lists of texts: how it is written, and its tokens and events when
it is read.
-/

namespace RowBatch
namespace Markup

inductive Content where
  | text (text : String)
  | word (word : String) (isIdentifier : IsIdentifier word)
  | list (texts : List String)

structure Pair where
  key : String
  isIdentifier : IsIdentifier key
  length_le : key.length ≤ 1024
  content : Content

namespace Content

def item (s : String) : List Char := '-' :: ' ' :: Written.line s.toList

def written : Content → List Char
  | .text s => ' ' :: Written.line s.toList
  | .word s _ => ' ' :: (s.toList ++ ['\n'])
  | .list [] => [' ', '[', ']', '\n']
  | .list (s :: further) => '\n' :: (s :: further).flatMap item

def scalar (s : String) : Token := .scalar s.toList (Written.styleOf s.toList)

def tokens : Content → List Token
  | .text s => [scalar s]
  | .word s _ => [.scalar s.toList .plain]
  | .list [] => [.flowSequenceStart, .flowSequenceEnd]
  | .list (s :: further) => (s :: further).flatMap fun s => [.blockEntry, scalar s]

def scalarEvent (ρ : Type) (s : String) : Event ρ :=
  .scalar none none s.toList (Written.styleOf s.toList)

def events (ρ : Type) : Content → List (Event ρ)
  | .text s => [scalarEvent ρ s]
  | .word s _ => [.scalar none none s.toList .plain]
  | .list texts => .sequenceStart none none :: texts.map (scalarEvent ρ) ++ [.sequenceEnd]

end Content

namespace Pair

def written (p : Pair) : List Char := p.key.toList ++ ':' :: p.content.written

def tokens (p : Pair) : List Token :=
  .key :: .scalar p.key.toList .plain :: .value :: p.content.tokens

def events (ρ : Type) (p : Pair) : List (Event ρ) :=
  .scalar none none p.key.toList .plain :: p.content.events ρ

end Pair

section Lines

open Lexer (Gives GivesInside)
open Content (scalar)

variable {more : List Char} {tokens : List Token} {keyAllowed : Bool} {blocks : List Nat}

theorem givesInside_line (s : String) (hmore : Fresh more) (h : Gives [0] more tokens) :
    GivesInside keyAllowed (' ' :: (Written.line s.toList ++ more)) (scalar s :: tokens) :=
  Lexer.givesInside_written (Written.writtenAs_line s.toList) hmore h

theorem gives_items (texts : List String) (hmore : Fresh more) (h : Gives [0] more tokens) :
    Fresh (texts.flatMap Content.item ++ more) ∧
      Gives [0] (texts.flatMap Content.item ++ more)
        (texts.flatMap (fun s => [.blockEntry, scalar s]) ++ tokens) := by
  induction texts with
  | nil => exact ⟨hmore, h⟩
  | cons s texts ih =>
    obtain ⟨hfresh, hgives⟩ := ih
    refine ⟨by simp [Fresh, Content.item, (by decide : isNameChar '-' = true)], ?_⟩
    simpa [Content.item] using Lexer.gives_item (givesInside_line s hfresh hgives)

theorem givesInside_content (c : Content) (hmore : Fresh more) (h : Gives [0] more tokens) :
    GivesInside false (c.written ++ more) (c.tokens ++ tokens) := by
  match c with
  | .text s => exact givesInside_line s hmore h
  | .word s hword =>
    have hs : s.toList ≠ [] := by simpa using hword.1
    simpa [Content.written, Content.tokens] using
      Lexer.givesInside_plain hs (Written.allowsPlain_of_identifier hword.2) hmore h
  | .list [] => exact Lexer.givesInside_brackets hmore h
  | .list (s :: further) =>
    obtain ⟨hfresh, hgives⟩ := gives_items (s :: further) hmore h
    exact Lexer.givesInside_break hfresh hgives

theorem gives_pair (p : Pair) (hblocks : blocks = [] ∨ blocks = [0]) (hmore : Fresh more)
    (h : Gives [0] more tokens) :
    Gives blocks (p.written ++ more) (Lexer.opening blocks ++ (p.tokens ++ tokens)) := by
  have hkey : p.key.toList ≠ [] := by simpa using p.isIdentifier.1
  have hgap : (p.content.written ++ more).head?.all isGap = true := by
    rcases p.content with _ | _ | (_ | _) <;> simp [Content.written, isGap]
  simpa [Pair.written, Pair.tokens] using
    Lexer.gives_key p.isIdentifier.2 hkey (String.length_toList ▸ p.length_le) hblocks hgap
      (givesInside_content p.content hmore h)

theorem fresh_pairs (pairs : List Pair) : Fresh (pairs.flatMap Pair.written) := by
  cases pairs with
  | nil => simp [Fresh]
  | cons p pairs =>
    obtain ⟨c, cs, hkey⟩ := List.exists_cons_of_ne_nil
      (show p.key.toList ≠ [] by simpa using p.isIdentifier.1)
    have hc : isIdentifierChar c = true := p.isIdentifier.2 c (by simp [hkey])
    simpa [Fresh, Pair.written, hkey] using Written.isNameChar_of_identifier hc

/-- The tokens of a mapping whose block is open. -/
theorem gives_pairs (pairs : List Pair) :
    Gives [0] (pairs.flatMap Pair.written)
      (pairs.flatMap Pair.tokens ++ [.blockEnd, .streamEnd]) := by
  induction pairs with
  | nil => exact Lexer.gives_nil
  | cons p pairs ih =>
    simpa [Lexer.opening] using gives_pair p (.inr rfl) (fresh_pairs pairs) ih

theorem all_isPrintable_word {s : String} (h : IsIdentifier s) :
    s.toList.all Written.isPrintable = true :=
  List.all_eq_true.mpr fun c hc => Written.isPrintable_of_identifier (h.2 c hc)

theorem all_isPrintable_content (c : Content) : c.written.all Written.isPrintable = true := by
  have hspace : Written.isPrintable ' ' = true := by decide
  have hfeed : Written.isPrintable '\n' = true := by decide
  have hline (s : String) : (Written.line s.toList).all Written.isPrintable = true :=
    (Written.writtenAs_line s.toList).all_isPrintable
  have hitem (s : String) : (Content.item s).all Written.isPrintable = true := by
    rw [Content.item, List.all_cons, List.all_cons, hline]
    decide
  match c with
  | .text s => rw [Content.written, List.all_cons, hline, hspace, Bool.and_self]
  | .word s h =>
    rw [Content.written, List.all_cons, List.all_append, all_isPrintable_word h]
    decide
  | .list [] => decide
  | .list (s :: further) =>
    rw [Content.written, List.all_cons, List.all_flatMap, hfeed, Bool.true_and, List.all_eq_true]
    exact fun s _ => hitem s

theorem all_isPrintable_pairs (pairs : List Pair) :
    (pairs.flatMap Pair.written).all Written.isPrintable = true := by
  have hcolon : Written.isPrintable ':' = true := by decide
  rw [List.all_flatMap, List.all_eq_true]
  intro p _
  rw [Pair.written, List.all_append, List.all_cons, all_isPrintable_word p.isIdentifier, hcolon,
    all_isPrintable_content, Bool.and_self, Bool.and_self]

theorem ofText_pairs {pairs : List Pair} (hpairs : pairs ≠ []) :
    Token.ofText (pairs.flatMap Pair.written) =
      .blockMappingStart :: (pairs.flatMap Pair.tokens ++ [.blockEnd, .streamEnd]) := by
  obtain ⟨p, pairs, rfl⟩ := List.exists_cons_of_ne_nil hpairs
  have hstart : Lexer.AtLine
      (.start (Glyph.layOut 0 0 0 ((p :: pairs).flatMap Pair.written)))
      ((p :: pairs).flatMap Pair.written) [] [] :=
    ⟨0, 0, Lexer.reaches_self (Lexer.skipGap_of_fresh (fresh_pairs (p :: pairs))) (by simp)⟩
  rw [Token.ofText, Glyph.ofText?_of_isPrintable (all_isPrintable_pairs (p :: pairs))]
  have h := gives_pair p (.inl rfl) (fresh_pairs pairs) (gives_pairs pairs) _ [] hstart
  simpa [Lexer.opening] using h

end Lines

section Events

open Phase (run)
open Content (scalar scalarEvent)

variable {handles : Handles} {t : Token} {tokens : List Token}

def before (events : List NamedEvent) (rest : List NamedEvent × Bool) : List NamedEvent × Bool :=
  (events ++ rest.1, rest.2)

theorem before_before (events more : List NamedEvent) (rest : List NamedEvent × Bool) :
    before events (before more rest) = before (events ++ more) rest := by
  simp [before]

theorem run_items (texts : List String) (ht : t = .key ∨ t = .blockEnd) :
    run (.body handles [.indentlessSequence, .blockMapping])
        (texts.flatMap (fun s => [.blockEntry, scalar s]) ++ t :: tokens) =
      before (texts.map (scalarEvent _) ++ [.sequenceEnd])
        (run (.body handles [.blockMapping]) (t :: tokens)) := by
  induction texts with
  | nil => rcases ht with rfl | rfl <;> rfl
  | cons s texts ih =>
    have hitem (rest : List Token) :
        run (.body handles [.indentlessSequence, .blockMapping]) (.blockEntry :: scalar s :: rest) =
          before [scalarEvent _ s]
            (run (.body handles [.indentlessSequence, .blockMapping]) rest) := rfl
    simp only [List.flatMap_cons, List.cons_append, List.nil_append]
    rw [hitem, ih, before_before]
    rfl

theorem run_content (c : Content) (ht : t = .key ∨ t = .blockEnd) :
    run (.body handles [.node .blockValue .none, .blockMapping]) (c.tokens ++ t :: tokens) =
      before (c.events _) (run (.body handles [.blockMapping]) (t :: tokens)) := by
  match c with
  | .text s => rfl
  | .word s _ => rfl
  | .list [] => rfl
  | .list (s :: further) =>
    have hitem (rest : List Token) :
        run (.body handles [.node .blockValue .none, .blockMapping])
            (.blockEntry :: scalar s :: rest) =
          before [.sequenceStart none none, scalarEvent _ s]
            (run (.body handles [.indentlessSequence, .blockMapping]) rest) := rfl
    simp only [Content.tokens, List.flatMap_cons, List.cons_append, List.nil_append]
    rw [hitem, run_items further ht, before_before]
    rfl

theorem run_pair (p : Pair) (ht : t = .key ∨ t = .blockEnd) :
    run (.body handles [.blockMapping]) (p.tokens ++ t :: tokens) =
      before (p.events _) (run (.body handles [.blockMapping]) (t :: tokens)) := by
  have hkey (rest : List Token) :
      run (.body handles [.blockMapping])
          (.key :: .scalar p.key.toList .plain :: .value :: rest) =
        before [.scalar none none p.key.toList .plain]
          (run (.body handles [.node .blockValue .none, .blockMapping]) rest) := rfl
  rw [Pair.tokens, List.cons_append, List.cons_append, List.cons_append, hkey,
    run_content p.content ht, before_before]
  rfl

theorem run_pairs (pairs : List Pair) :
    run (.body handles [.blockMapping]) (pairs.flatMap Pair.tokens ++ [.blockEnd, .streamEnd]) =
      (pairs.flatMap (Pair.events _) ++ [.mappingEnd], true) := by
  induction pairs with
  | nil => rfl
  | cons p pairs ih =>
    -- A list without indentation ends at the token behind it.
    have hnext : ∃ t rest, pairs.flatMap Pair.tokens ++ [.blockEnd, .streamEnd] = t :: rest ∧
        (t = .key ∨ t = .blockEnd) := by
      cases pairs with
      | nil => exact ⟨_, _, rfl, .inr rfl⟩
      | cons p pairs => exact ⟨_, _, rfl, .inl rfl⟩
    obtain ⟨t, rest, hrest, ht⟩ := hnext
    rw [List.flatMap_cons, List.append_assoc, hrest, run_pair p ht, ← hrest, ih]
    simp [before]

end Events

namespace Document

open Content (scalarEvent)

variable {known : List (List Char × Nat)} {rest : List NamedEvent}

theorem number_scalars (texts : List String) :
    number known (texts.map (scalarEvent _) ++ rest) =
      (texts.map (scalarEvent _) ++ (number known rest).1, (number known rest).2) := by
  induction texts with
  | nil => rfl
  | cons s texts ih =>
    have hs (more : List NamedEvent) : number known (scalarEvent _ s :: more) =
      (scalarEvent _ s :: (number known more).1, (number known more).2) := rfl
    rw [List.map_cons, List.cons_append, hs, ih]
    rfl

theorem number_content (c : Content) :
    number known (c.events _ ++ rest) =
      (c.events _ ++ (number known rest).1, (number known rest).2) := by
  match c with
  | .text s => rfl
  | .word s _ => rfl
  | .list texts =>
    have hlist (more : List NamedEvent) : number known (.sequenceStart none none :: more) =
      (.sequenceStart none none :: (number known more).1, (number known more).2) := rfl
    simp only [Content.events, List.cons_append, List.append_assoc]
    rw [hlist, number_scalars]
    rfl

theorem number_pairs (pairs : List Pair) :
    number known (pairs.flatMap (Pair.events _) ++ [.mappingEnd]) =
      (pairs.flatMap (Pair.events _) ++ [.mappingEnd], true) := by
  induction pairs with
  | nil => rfl
  | cons p pairs ih =>
    have hkey (more : List NamedEvent) :
        number known (.scalar none none p.key.toList .plain :: more) =
          (.scalar none none p.key.toList .plain :: (number known more).1,
            (number known more).2) := rfl
    rw [List.flatMap_cons, Pair.events, List.append_assoc, List.cons_append, hkey, number_content,
      ih]
    simp [Pair.events]

/-- A written mapping is read as the document that it describes. -/
theorem ofText_pairs {pairs : List Pair} (hpairs : pairs ≠ []) :
    ofText (pairs.flatMap Pair.written) =
      ⟨.mappingStart none none :: (pairs.flatMap (Pair.events _) ++ [.mappingEnd]), true⟩ := by
  have hstart (tokens : List Token) : Phase.start.run (.blockMappingStart :: tokens) =
      before [.mappingStart none none]
        ((Phase.body Handles.standard [.blockMapping]).run tokens) := rfl
  have hnumber (events : List NamedEvent) : number [] (.mappingStart none none :: events) =
      (.mappingStart none none :: (number [] events).1, (number [] events).2) := rfl
  rw [ofText, Markup.ofText_pairs hpairs, hstart, run_pairs]
  simp only [before, List.singleton_append, hnumber, number_pairs, Bool.and_self]

end Document

end Markup
end RowBatch
