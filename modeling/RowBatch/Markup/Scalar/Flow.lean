import RowBatch.Markup.Glyph

/-!
Scalars that are plain or stand in quotes, and the gaps between their words. In a gap a single line
break is a blank, and of several the first is dropped.
-/

namespace RowBatch
namespace Markup

/-- Blanks on one line, or line breaks with the blanks around them left out. The first break is
missing when it was escaped. -/
inductive Gap where
  | blanks (read : List Char)
  | lines (first further : List Char)
deriving DecidableEq

namespace Gap

def none : Gap := .blanks []

def addBlank (c : Char) : Gap → Gap
  | .blanks read => .blanks (read ++ [c])
  | .lines first further => .lines first further

def addBreak (c : Char) : Gap → Gap
  | .blanks _ => .lines [c] []
  | .lines first further => .lines first (further ++ [c])

def broken : Gap → Bool
  | .blanks _ => false
  | .lines _ _ => true

def text : Gap → List Char
  | .blanks read => read
  | .lines ['\n'] [] => [' ']
  | .lines ['\n'] further => further
  | .lines first further => first ++ further

end Gap

namespace Plain

def isRefusedAfterColon (c : Char) : Bool := isFlowMark c || c == '?'

def endsAt (inFlow : Bool) (g : Glyph) (rest : List Glyph) : Bool :=
  (g.char == ':' && Glyph.atGap rest) || (inFlow && isFlowMark g.char)

/-- Whether a scalar ends after a gap that is not empty. -/
def endsAfter (gap : Gap) (inFlow : Bool) (indent : Nat) (g : Glyph) (rest : List Glyph) : Bool :=
  gap != .none && (g.char == '#' || Glyph.atDocumentMark (g :: rest) ||
    (gap.broken && !inFlow && decide (g.column < indent)))

/-- Reads a scalar to its end, being behind a gap. Gives the text, whether a line ended behind it,
and what follows. -/
def read (inFlow : Bool) (indent : Nat) : Gap → List Glyph → Option (List Char × Bool × List Glyph)
  | gap, [] => some ([], gap.broken, [])
  | gap, g :: rest =>
    if isBlank g.char then
      if g.char == '\t' && gap.broken && decide (g.column < indent) then none
      else read inFlow indent (gap.addBlank g.char) rest
    else if isBreak g.char then read inFlow indent (gap.addBreak g.char) rest
    else if endsAfter gap inFlow indent g rest || endsAt inFlow g rest then
      some ([], gap.broken, g :: rest)
    else if inFlow && g.char == ':' && rest.head?.any fun h => isRefusedAfterColon h.char then none
    else (read inFlow indent .none rest).map fun (text, after) =>
      (gap.text ++ g.char :: text, after)

end Plain

namespace Quoted

def cons (text : List Char) (read : Option (List Char × List Glyph)) :
    Option (List Char × List Glyph) :=
  read.map fun (more, rest) => (text ++ more, rest)

def readSingle : Gap → List Glyph → Option (List Char × List Glyph)
  | _, [] => none
  | gap, g :: rest =>
    if Glyph.atDocumentMark (g :: rest) then none
    else if isBlank g.char then readSingle (gap.addBlank g.char) rest
    else if isBreak g.char then readSingle (gap.addBreak g.char) rest
    else if g.char == '\x27' then
      match rest with
      | [] => some (gap.text, [])
      | h :: after =>
        if h.char == '\x27' then cons (gap.text ++ ['\x27']) (readSingle .none after)
        else some (gap.text, rest)
    else cons (gap.text ++ [g.char]) (readSingle .none rest)

def escaped? (c : Char) : Option Char :=
  match c with
  | '0' => some '\x00'
  | 'a' => some '\x07'
  | 'b' => some '\x08'
  | 't' | '\t' => some '\t'
  | 'n' => some '\n'
  | 'v' => some '\x0b'
  | 'f' => some '\x0c'
  | 'r' => some '\r'
  | 'e' => some '\x1b'
  | ' ' => some ' '
  | '\x22' => some '\x22'
  | '/' => some '/'
  | '\\' => some '\\'
  | 'N' => some '\u0085'
  | '_' => some '\u00a0'
  | 'L' => some '\u2028'
  | 'P' => some '\u2029'
  | _ => none

/-- The number of hexadecimal digits behind an escape, less one. -/
def digits? (c : Char) : Option Nat :=
  match c with
  | 'x' => some 1
  | 'u' => some 3
  | 'U' => some 7
  | _ => none

def hexDigit? (c : Char) : Option Nat :=
  if c.isDigit then some (c.toNat - '0'.toNat)
  else if 'a' ≤ c ∧ c ≤ 'f' then some (c.toNat - 'a'.toNat + 10)
  else if 'A' ≤ c ∧ c ≤ 'F' then some (c.toNat - 'A'.toNat + 10)
  else none

def char? (code : Nat) : Option Char :=
  if code.isValidChar then some (Char.ofNat code) else none

/-- Where the reader between double quotes is: behind a gap, behind a backslash, or in a number
with so many digits to come after the next. -/
inductive State where
  | text (gap : Gap)
  | escape
  | code (left value : Nat)
deriving DecidableEq

def readDouble : State → List Glyph → Option (List Char × List Glyph)
  | _, [] => none
  | .text gap, g :: rest =>
    if Glyph.atDocumentMark (g :: rest) then none
    else if isBlank g.char then readDouble (.text (gap.addBlank g.char)) rest
    else if isBreak g.char then readDouble (.text (gap.addBreak g.char)) rest
    else if g.char == '\x22' then some (gap.text, rest)
    else if g.char == '\\' then cons gap.text (readDouble .escape rest)
    else cons (gap.text ++ [g.char]) (readDouble (.text .none) rest)
  | .escape, g :: rest =>
    if isBreak g.char then readDouble (.text (.lines [] [])) rest
    else
      match escaped? g.char, digits? g.char with
      | some c, _ => cons [c] (readDouble (.text .none) rest)
      | none, some left => readDouble (.code left 0) rest
      | none, none => none
  | .code left value, g :: rest =>
    match hexDigit? g.char with
    | none => none
    | some digit =>
      let value := 16 * value + digit
      match left with
      | left + 1 => readDouble (.code left value) rest
      | 0 =>
        match char? value with
        | some c => cons [c] (readDouble (.text .none) rest)
        | none => none

end Quoted
end Markup
end RowBatch
