import RowBatch.Markup.Glyph

/-!
Scalars on lines of their own, which are told by their indentation. A literal scalar keeps its line
breaks; a folded one joins lines with a blank.
-/

namespace RowBatch
namespace Markup
namespace Block

/-- What becomes of the line breaks at the end: none, the first or all of them are kept. -/
inductive Chomping where
  | strip
  | clip
  | keep
deriving DecidableEq, Inhabited

def readChomping : List Glyph → Option Chomping × List Glyph
  | [] => (none, [])
  | g :: rest =>
    if g.char == '+' then (some .keep, rest)
    else if g.char == '-' then (some .strip, rest)
    else (none, g :: rest)

def readIncrement : List Glyph → Option (Option Nat × List Glyph)
  | [] => some (none, [])
  | g :: rest =>
    if g.char == '0' then none
    else if g.char.isDigit then some (some (g.char.toNat - '0'.toNat), rest)
    else some (none, g :: rest)

/-- Reads what follows the mark of a block scalar up to the end of the line. The two indications
may come in any order. -/
def readHeader (glyphs : List Glyph) : Option (Chomping × Option Nat × List Glyph) := do
  let (before, rest) := readChomping glyphs
  let (increment, rest) ← readIncrement rest
  let (after, rest) :=
    if before.isNone && increment.isSome then readChomping rest else (none, rest)
  let rest ← Glyph.skipLine false rest
  return ((before.or after).getD .clip, increment, rest)

/-- Reads the empty lines at the start, and finds the indentation: that of the first line with a
text, or of a longer empty one. -/
def readLeading : Nat → List Char → List Glyph → Option (Nat × List Char × List Glyph)
  | indent, breaks, [] => some (indent, breaks, [])
  | indent, breaks, g :: rest =>
    if g.char == ' ' then readLeading (max indent g.column) breaks rest
    else if g.char == '\t' then none
    else if isBreak g.char then readLeading (max indent g.column) (breaks ++ [g.char]) rest
    else some (max indent g.column, breaks, g :: rest)

/-- The text between two lines, of which the first was followed by the break `first`. Folding
spares the lines that start with a blank. -/
def join (folded : Bool) (first : List Char) (blankBefore : Bool) (further : List Char)
    (blankAfter : Bool) : List Char :=
  if folded && first == ['\n'] && !blankBefore && !blankAfter then
    if further.isEmpty then [' '] else further
  else first ++ further

def Chomping.tail (chomping : Chomping) (first further : List Char) : List Char :=
  match chomping with
  | .strip => []
  | .clip => first
  | .keep => first ++ further

/-- Where the reader is: inside a line, or between two lines. It remembers whether the line starts
with a blank, and the breaks since. -/
inductive State where
  | line (blank : Bool)
  | between (first : List Char) (blank : Bool) (further : List Char)
deriving DecidableEq

/-- Reads the lines that are indented far enough. -/
def readLines (folded : Bool) (chomping : Chomping) (indent : Nat) :
    State → List Glyph → Option (List Char × List Glyph)
  | .line _, [] => some ([], [])
  | .line blank, g :: rest =>
    if isBreak g.char then readLines folded chomping indent (.between [g.char] blank []) rest
    else (readLines folded chomping indent (.line blank) rest).map fun (text, after) =>
      (g.char :: text, after)
  | .between first _ further, [] => some (chomping.tail first further, [])
  | .between first blank further, g :: rest =>
    if g.char == ' ' && decide (g.column < indent) then
      readLines folded chomping indent (.between first blank further) rest
    else if g.char == '\t' && decide (g.column < indent) then none
    else if isBreak g.char then
      readLines folded chomping indent (.between first blank (further ++ [g.char])) rest
    else if g.column == indent then
      (readLines folded chomping indent (.line (isBlank g.char)) rest).map fun (text, after) =>
        (join folded first blank further (isBlank g.char) ++ g.char :: text, after)
    else some (chomping.tail first further, g :: rest)

/-- Reads a scalar from behind its mark; its lines belong to a block that starts at the column
`base`, if there is one. -/
def read (folded : Bool) (base : Option Nat) (glyphs : List Glyph) :
    Option (List Char × List Glyph) := do
  let (chomping, increment, rest) ← readHeader glyphs
  match increment with
  | some n => readLines folded chomping (base.getD 0 + n) (.between [] false []) rest
  | none =>
    let least := max 1 ((base.map (· + 1)).getD 0)
    let (indent, breaks, rest) ← readLeading least [] rest
    readLines folded chomping indent (.between [] false breaks) rest

end Block
end Markup
end RowBatch
