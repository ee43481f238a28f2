import RowBatch.Markup.Glyph
import RowBatch.Markup.Scalar.Meaning
import RowBatch.Markup.Token

/-!
How a text is written as a scalar: plain if that reads back as the same text, else in quotes; on
lines of its own if it holds a line feed; and in double quotes if nothing else can hold it.
-/

namespace RowBatch
namespace Markup
namespace Written

/-- The characters that are written as they are. The mark of Unicode is not, although it may
stand in a text. -/
def isPrintable (c : Char) : Bool :=
  c == '\n' || (0x20 ≤ c.toNat && c.toNat ≤ 0x7e) ||
    (0xa0 ≤ c.toNat && c.toNat ≤ 0xfffd && c != byteOrderMark) || 0x10000 ≤ c.toNat

def isSpace (c : Char) : Bool := c == ' '

def hasPair (p q : Char → Bool) : List Char → Bool
  | a :: b :: rest => (p a && q b) || hasPair p q (b :: rest)
  | _ => false

def endsWith (p : Char → Bool) (cs : List Char) : Bool := cs.getLast?.any p

def startsWith (p : Char → Bool) (cs : List Char) : Bool := cs.head?.any p

def isStartMark (c : Char) : Bool :=
  isFlowMark c || "#&*!|>\x27\x22%@\x60".contains c

/-- Whether a plain scalar would be taken for something else because of a mark in it. -/
def hasMark (cs : List Char) : Bool :=
  "---".toList.isPrefixOf cs || "...".toList.isPrefixOf cs || startsWith isStartMark cs ||
    (startsWith (fun c => c == '-' || c == '?') cs && cs.tail.head?.all isGap) ||
    hasPair (· == ':') isGap cs || endsWith (· == ':') cs || hasPair isGap (· == '#') cs

/-- Whether a text can be written without quotes on one line. -/
def allowsPlain (cs : List Char) : Bool :=
  cs.all isPrintable && !cs.any isBreak && !startsWith isSpace cs && !endsWith isSpace cs &&
    !hasMark cs

/-- Whether a text can be written in single quotes. Blanks at line breaks would be lost. -/
def allowsSingle (cs : List Char) : Bool :=
  cs.all isPrintable && !hasPair isSpace isBreak cs && !hasPair isBreak isSpace cs

/-- Whether a text can be written on lines of its own. Blanks at their ends would be lost. -/
def allowsLiteral (cs : List Char) : Bool :=
  cs.all isPrintable && !hasPair isSpace isBreak cs && !endsWith isSpace cs

def styleOf (cs : List Char) : ScalarStyle :=
  if cs.contains '\n' then (if allowsLiteral cs then .literal else .doubleQuoted)
  else if Meaning.isText cs && allowsPlain cs then .plain
  else if allowsSingle cs then .singleQuoted
  else .doubleQuoted

def indentation : List Char := [' ', ' ']

def single (broken : Bool) : List Char → List Char
  | [] => if broken then indentation else []
  | c :: rest =>
    if isBreak c then c :: single true rest
    else
      (if broken then indentation else []) ++ (if c == '\x27' then [c, c] else [c]) ++
        single false rest

/-- The lines of a literal scalar, each indented but for empty ones. -/
def lines (broken : Bool) : List Char → List Char
  | [] => []
  | c :: rest =>
    if isBreak c then c :: lines true rest
    else (if broken then indentation else []) ++ c :: lines false rest

def chomping (cs : List Char) : List Char :=
  match cs.reverse with
  | last :: before =>
    if !isBreak last then ['-']
    else
      match before with
      | [] => ['+']
      | c :: _ => if isBreak c then ['+'] else []
  | [] => ['-']

/-- What a header says about the indentation, if the first line does not show it. -/
def increment (cs : List Char) : List Char :=
  if startsWith (fun c => isSpace c || isBreak c) cs then ['2'] else []

def literal (cs : List Char) : List Char :=
  '|' :: increment cs ++ chomping cs ++ '\n' :: lines true cs

def hex (width n : Nat) : List Char :=
  let digits := (Nat.toDigits 16 n).map Char.toUpper
  List.replicate (width - digits.length) '0' ++ digits

def numbered (c : Char) : List Char :=
  if c.toNat ≤ 0xff then 'x' :: hex 2 c.toNat
  else if c.toNat ≤ 0xffff then 'u' :: hex 4 c.toNat
  else 'U' :: hex 8 c.toNat

def escaped (c : Char) : List Char :=
  if isPrintable c && !isBreak c && c != '\x22' && c != '\\' then [c]
  else
    '\\' ::
      match c with
      | '\x00' => ['0']
      | '\x07' => ['a']
      | '\x08' => ['b']
      | '\t' => ['t']
      | '\n' => ['n']
      | '\x0b' => ['v']
      | '\x0c' => ['f']
      | '\r' => ['r']
      | '\x1b' => ['e']
      | '\x22' => ['\x22']
      | '\\' => ['\\']
      | '\u0085' => ['N']
      | '\u2028' => ['L']
      | '\u2029' => ['P']
      | c => numbered c

/-- A text as it is written, up to the line break that must follow. A literal scalar that ends in
one needs none. -/
def scalar (cs : List Char) : List Char :=
  match styleOf cs with
  | .plain => cs
  | .singleQuoted => '\x27' :: single false cs ++ ['\x27']
  | .literal | .folded => literal cs
  | .doubleQuoted => '\x22' :: cs.flatMap escaped ++ ['\x22']

def line (cs : List Char) : List Char :=
  let written := scalar cs
  if styleOf cs == .literal && endsWith isBreak cs then written else written ++ ['\n']

end Written
end Markup
end RowBatch
