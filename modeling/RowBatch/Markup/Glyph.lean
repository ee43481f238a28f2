/-!
The characters of a marked-up text, each with its place. The ways to break a line are made one
first, so that every break is a single character.
-/

namespace RowBatch
namespace Markup

def byteOrderMark : Char := '\ufeff'

def isBreak (c : Char) : Bool := c == '\n' || c == '\u2028' || c == '\u2029'

def isBlank (c : Char) : Bool := c == ' ' || c == '\t'

def isGap (c : Char) : Bool := isBlank c || isBreak c

def isAllowed (c : Char) : Bool :=
  c == '\t' || c == '\n' || c == '\r' || c == '\u0085' ||
    (0x20 ≤ c.toNat && c.toNat ≤ 0x7e) || (0xa0 ≤ c.toNat && c.toNat ≤ 0xfffd) ||
    0x10000 ≤ c.toNat

def isNameChar (c : Char) : Bool := c.isAlphanum || c == '_' || c == '-'

def isFlowMark (c : Char) : Bool :=
  c == ',' || c == '[' || c == ']' || c == '\x7b' || c == '\x7d'

/-- Writes every line break as a line feed, but for the two separators that are kept. -/
def unifyBreaks : List Char → List Char
  | [] => []
  | '\r' :: '\n' :: rest => '\n' :: unifyBreaks rest
  | c :: rest => (if c == '\r' || c == '\u0085' then '\n' else c) :: unifyBreaks rest

/-- A character with its line and column, and the number of characters before it. -/
structure Glyph where
  char : Char
  line : Nat
  column : Nat
  index : Nat
deriving DecidableEq, Inhabited

namespace Glyph

def layOut (line column index : Nat) : List Char → List Glyph
  | [] => []
  | c :: rest =>
    ⟨c, line, column, index⟩ ::
      if isBreak c then layOut (line + 1) 0 (index + 1) rest
      else layOut line (column + 1) (index + 1) rest

@[simp] theorem map_char_layOut (line column index : Nat) (cs : List Char) :
    (layOut line column index cs).map char = cs := by
  induction cs generalizing line column index with
  | nil => rfl
  | cons c rest ih => by_cases h : isBreak c <;> simp [layOut, h, ih]

/-- The glyphs of a text, if all of its characters may stand in one. -/
def ofText? (text : List Char) : Option (List Glyph) :=
  let body := if text.head? == some byteOrderMark then text.tail else text
  if body.all isAllowed then some (layOut 0 0 0 (unifyBreaks body)) else none

/-- Whether a word ends here: at a blank, a line break or the end of the text. -/
def atGap : List Glyph → Bool
  | [] => true
  | g :: _ => isGap g.char

def atDocumentMark : List Glyph → Bool
  | a :: b :: c :: rest =>
    a.column == 0 && (a.char == '-' || a.char == '.') && b.char == a.char && c.char == a.char &&
      atGap rest
  | _ => false

/-- Skips blanks and a comment up to the end of the line, and the line break. Nothing else may
stand there. -/
def skipLine : Bool → List Glyph → Option (List Glyph)
  | _, [] => some []
  | comment, g :: rest =>
    if isBreak g.char then some rest
    else if comment || isBlank g.char then skipLine comment rest
    else if g.char == '#' then skipLine true rest
    else none

end Glyph
end Markup
end RowBatch
