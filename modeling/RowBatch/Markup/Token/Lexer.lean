import RowBatch.Markup.Scalar.Block
import RowBatch.Markup.Scalar.Flow
import RowBatch.Markup.Token

/-!
From characters to tokens. Indentation opens and closes block collections, and whether a token was
a key is known only when the colon behind it is read; until then the tokens wait.
-/

namespace RowBatch
namespace Markup

/-- A token that turns out to be a key if a colon follows it on its line. -/
structure KeyCandidate where
  /-- How many tokens were read before it. -/
  position : Nat
  /-- Whether nothing but a key may stand there. -/
  required : Bool
  start : Glyph
deriving DecidableEq

namespace KeyCandidate

/-- A key starts on the line of its colon, and not too far in front of it. -/
def isStale (k : KeyCandidate) : List Glyph → Bool
  | [] => true
  | g :: _ => decide (k.start.line < g.line) || decide (k.start.index + 1024 < g.index)

/-- Forgets a candidate that can no longer be a key; this fails if it had to be one. -/
def refresh (rest : List Glyph) : Option KeyCandidate → Option (Option KeyCandidate)
  | none => some none
  | some k => if k.isStale rest then (if k.required then none else some none) else some (some k)

end KeyCandidate

structure Lexer where
  rest : List Glyph
  read : List Token
  /-- The columns of the open block collections, the innermost first. -/
  blocks : List Nat
  keyAllowed : Bool
  candidate : Option KeyCandidate
  /-- The candidates outside of each open bracket or brace, the innermost first. -/
  outer : List (Option KeyCandidate)

namespace Lexer

def start (glyphs : List Glyph) : Lexer := ⟨glyphs, [], [], true, none, []⟩

def inFlow (s : Lexer) : Bool := !s.outer.isEmpty

def emit (s : Lexer) (t : Token) : Lexer := { s with read := t :: s.read }

/-- Skips blanks, comments and line breaks. Tabs count as blanks only where no indentation can
be. After a line break a key may start. -/
def skipGap (inFlow : Bool) : Bool → Bool → List Glyph → Bool × List Glyph
  | _, keyAllowed, [] => (keyAllowed, [])
  | comment, keyAllowed, g :: rest =>
    if isBreak g.char then skipGap inFlow false (keyAllowed || !inFlow) rest
    else if comment then skipGap inFlow true keyAllowed rest
    else if g.char == ' ' || (g.char == '\t' && (inFlow || !keyAllowed)) ||
        (g.char == byteOrderMark && g.column == 0) then
      skipGap inFlow false keyAllowed rest
    else if g.char == '#' then skipGap inFlow true keyAllowed rest
    else (keyAllowed, g :: rest)

def dropStale (s : Lexer) : Option Lexer := do
  let candidate ← KeyCandidate.refresh s.rest s.candidate
  let outer ← s.outer.mapM (KeyCandidate.refresh s.rest)
  return { s with candidate, outer }

def advance (s : Lexer) : Option Lexer :=
  let (keyAllowed, rest) := skipGap s.inFlow false s.keyAllowed s.rest
  dropStale { s with keyAllowed, rest }

def closeKey (s : Lexer) : Option Lexer :=
  match s.candidate with
  | none => some s
  | some k => if k.required then none else some { s with candidate := none }

/-- Makes the token that starts here a candidate, if it can be a key. -/
def offerKey (s : Lexer) (g : Glyph) : Option Lexer :=
  if s.keyAllowed then
    s.closeKey.map fun s =>
      let required := !s.inFlow && s.blocks.head? == some g.column
      { s with candidate := some ⟨s.read.length, required, g⟩ }
  else some s

def insert (s : Lexer) (position : Nat) (t : Token) : Lexer :=
  { s with read := s.read.insertIdx (s.read.length - position) t }

/-- Opens a block collection behind the first `position` tokens if the column is further right
than the innermost one. -/
def openBlock (s : Lexer) (column position : Nat) (t : Token) : Lexer :=
  if s.inFlow || s.blocks.head?.any fun c => decide (column ≤ c) then s
  else { s.insert position t with blocks := column :: s.blocks }

def closeBlocks (s : Lexer) (p : Nat → Bool) : Lexer :=
  if s.inFlow then s
  else
    { s with
      read := (s.blocks.takeWhile p).map (fun _ => .blockEnd) ++ s.read
      blocks := s.blocks.dropWhile p }

def breakOff (s : Lexer) : Option Lexer :=
  (s.closeBlocks fun _ => true).closeKey.map fun s => { s with keyAllowed := false }

def readDocumentMark (s : Lexer) (g : Glyph) (rest : List Glyph) : Option Lexer :=
  s.breakOff.map fun s =>
    { s with rest := rest.drop 2 }.emit (if g.char == '-' then .documentStart else .documentEnd)

def readDirective (s : Lexer) (rest : List Glyph) : Option Lexer := do
  let s ← s.breakOff
  let (token, rest) ← Property.readDirective rest
  return { s with rest }.emit token

def openFlow (s : Lexer) (g : Glyph) (rest : List Glyph) (t : Token) : Option Lexer :=
  (s.offerKey g).map fun s =>
    { s with rest, keyAllowed := true, candidate := none, outer := s.candidate :: s.outer }.emit t

def closeFlow (s : Lexer) (rest : List Glyph) (t : Token) : Option Lexer :=
  s.closeKey.map fun s =>
    { s with
      rest, keyAllowed := false, candidate := s.outer.head?.join, outer := s.outer.tail }.emit t

def readFlowEntry (s : Lexer) (rest : List Glyph) : Option Lexer :=
  s.closeKey.map fun s => { s with rest, keyAllowed := true }.emit .flowEntry

/-- Reads the mark of an entry or a key, which opens a block collection where none is open. -/
def readBlockMark (s : Lexer) (g : Glyph) (rest : List Glyph) (opening t : Token)
    (keyAllowed : Bool) : Option Lexer :=
  if s.inFlow || s.keyAllowed then
    (s.openBlock g.column s.read.length opening).closeKey.map fun s =>
      { s with rest, keyAllowed }.emit t
  else none

/-- Reads a colon. If there is a candidate, that was a key. -/
def readValue (s : Lexer) (g : Glyph) (rest : List Glyph) : Option Lexer :=
  match s.candidate with
  | some k =>
    let s := (s.insert k.position .key).openBlock k.start.column k.position .blockMappingStart
    some ({ s with rest, candidate := none, keyAllowed := false }.emit .value)
  | none =>
    if s.inFlow || s.keyAllowed then
      let s := s.openBlock g.column s.read.length .blockMappingStart
      some ({ s with rest, keyAllowed := !s.inFlow }.emit .value)
    else none

def readProperty (s : Lexer) (g : Glyph) (read : Option (Token × List Glyph)) : Option Lexer := do
  let s ← s.offerKey g
  let (token, rest) ← read
  return { s with rest, keyAllowed := false }.emit token

def readBlockScalar (s : Lexer) (rest : List Glyph) (style : ScalarStyle) : Option Lexer := do
  let s ← s.closeKey
  let (text, rest) ← Block.read (style == .folded) s.blocks.head? rest
  return { s with rest, keyAllowed := true }.emit (.scalar text style)

def readQuoted (s : Lexer) (g : Glyph) (read : Option (List Char × List Glyph))
    (style : ScalarStyle) : Option Lexer :=
  s.readProperty g (read.map fun (text, rest) => (.scalar text style, rest))

/-- Reads a plain scalar. A key may follow it if a line ended behind it. -/
def readPlain (s : Lexer) (g : Glyph) (rest : List Glyph) : Option Lexer := do
  let s ← s.offerKey g
  let indent := (s.blocks.head?.map (· + 1)).getD 0
  let (text, broken, rest) ← Plain.read s.inFlow indent .none (g :: rest)
  return { s with rest, keyAllowed := broken }.emit (.scalar text .plain)

def readToken (s : Lexer) (g : Glyph) (rest : List Glyph) : Option Lexer :=
  let s := s.closeBlocks fun column => decide (g.column < column)
  if g.char == '%' && g.column == 0 then s.readDirective rest
  else if Glyph.atDocumentMark (g :: rest) then s.readDocumentMark g rest
  else
    match g.char with
    | '[' => s.openFlow g rest .flowSequenceStart
    | '\x7b' => s.openFlow g rest .flowMappingStart
    | ']' => s.closeFlow rest .flowSequenceEnd
    | '\x7d' => s.closeFlow rest .flowMappingEnd
    | ',' => s.readFlowEntry rest
    | '-' =>
      if Glyph.atGap rest then s.readBlockMark g rest .blockSequenceStart .blockEntry true
      else s.readPlain g rest
    | '?' =>
      if s.inFlow || Glyph.atGap rest then
        s.readBlockMark g rest .blockMappingStart .key (!s.inFlow)
      else s.readPlain g rest
    | ':' => if s.inFlow || Glyph.atGap rest then s.readValue g rest else s.readPlain g rest
    | '&' => s.readProperty g ((Property.readAnchor rest).map fun (n, rest) => (.anchor n, rest))
    | '*' => s.readProperty g ((Property.readAnchor rest).map fun (n, rest) => (.alias n, rest))
    | '!' => s.readProperty g (Property.readTag s.inFlow rest)
    | '|' => if s.inFlow then none else s.readBlockScalar rest .literal
    | '>' => if s.inFlow then none else s.readBlockScalar rest .folded
    | '\x27' => s.readQuoted g (Quoted.readSingle .none rest) .singleQuoted
    | '\x22' => s.readQuoted g (Quoted.readDouble (.text .none) rest) .doubleQuoted
    | '\t' | '#' | '%' | '@' | '\x60' => none
    | _ => s.readPlain g rest

/-- The tokens that are certain: those before the first that may still turn out to be a key. -/
def certain (s : Lexer) : List Token :=
  let waiting := (s.candidate :: s.outer).filterMap id
  s.read.reverse.take (waiting.foldl (fun n k => min n k.position) s.read.length)

def finish (s : Lexer) : List Token :=
  ((s.closeBlocks fun _ => true).emit .streamEnd).read.reverse

/-- Reads tokens to the end of the text, or up to a fault; only what is certain is given then, and
the end of the stream is missing. -/
def run (s : Lexer) : List Token :=
  match s.dropStale with
  | none => s.certain
  | some t =>
    match t.advance with
    | none => t.certain
    | some u =>
      match u.rest with
      | [] => u.finish
      | g :: rest =>
        match u.readToken g rest with
        | none => t.certain
        | some v => if _h : v.rest.length < s.rest.length then run v else t.certain
termination_by s.rest.length

end Lexer

namespace Token

def ofText (text : List Char) : List Token :=
  match Glyph.ofText? text with
  | some glyphs => (Lexer.start glyphs).run
  | none => []

end Token
end Markup
end RowBatch
