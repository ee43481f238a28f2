import RowBatch.Markup.Glyph
import RowBatch.Markup.Scalar.Flow

/-!
The tokens of a marked-up text, and the reading of anchors, tags and directives.
-/

namespace RowBatch
namespace Markup

inductive ScalarStyle where
  | plain
  | singleQuoted
  | doubleQuoted
  | literal
  | folded
deriving DecidableEq, Inhabited

inductive Token where
  | versionDirective (major minor : Nat)
  | tagDirective (handle lead : List Char)
  | documentStart
  | documentEnd
  | streamEnd
  | blockSequenceStart
  | blockMappingStart
  | blockEnd
  | flowSequenceStart
  | flowSequenceEnd
  | flowMappingStart
  | flowMappingEnd
  | blockEntry
  | flowEntry
  | key
  | value
  | alias (name : List Char)
  | anchor (name : List Char)
  | tag (handle suffix : List Char)
  | scalar (text : List Char) (style : ScalarStyle)
deriving DecidableEq, Inhabited

namespace Property

def spanChars (p : Char → Bool) (glyphs : List Glyph) : List Char × List Glyph :=
  ((glyphs.takeWhile fun g => p g.char).map Glyph.char, glyphs.dropWhile fun g => p g.char)

def skipBlanks (glyphs : List Glyph) : List Glyph :=
  glyphs.dropWhile fun g => isBlank g.char

def endsAnchor (c : Char) : Bool := isGap c || "?:,]\x7d%@\x60".contains c

def readAnchor (glyphs : List Glyph) : Option (List Char × List Glyph) :=
  match spanChars isNameChar glyphs with
  | ([], _) => none
  | (name, []) => some (name, [])
  | (name, g :: rest) => if endsAnchor g.char then some (name, g :: rest) else none

def isTagChar (c : Char) : Bool := isNameChar c || ";/?:@&=+$.%!~*\x27()".contains c

def isLongTagChar (c : Char) : Bool := isTagChar c || c == ',' || c == '[' || c == ']'

def byte? (high low : Char) : Option Nat := do
  return 16 * (← Quoted.hexDigit? high) + (← Quoted.hexDigit? low)

/-- Replaces the percent-encoded characters of a tag. While the bytes of a character are read,
`left` of them are still to come and `value` holds the bits of the others. -/
def decode (left value : Nat) : List Char → Option (List Char)
  | [] => if left = 0 then some [] else none
  | '%' :: high :: low :: rest =>
    match byte? high low, left with
    | none, _ => none
    | some byte, 0 =>
      if byte < 0x80 then (decode 0 0 rest).map (Char.ofNat byte :: ·)
      else if 0xc0 ≤ byte ∧ byte < 0xe0 then decode 1 (byte - 0xc0) rest
      else if 0xe0 ≤ byte ∧ byte < 0xf0 then decode 2 (byte - 0xe0) rest
      else if 0xf0 ≤ byte ∧ byte < 0xf8 then decode 3 (byte - 0xf0) rest
      else none
    | some byte, left + 1 =>
      if byte < 0x80 ∨ 0xc0 ≤ byte then none
      else
        let value := 64 * value + (byte - 0x80)
        if left = 0 then
          match Quoted.char? value with
          | some c => (decode 0 0 rest).map (c :: ·)
          | none => none
        else decode left value rest
  | c :: rest => if c == '%' || left != 0 then none else (decode 0 0 rest).map (c :: ·)

def readTagText (p : Char → Bool) (glyphs : List Glyph) : Option (List Char × List Glyph) :=
  let (text, rest) := spanChars p glyphs
  (decode 0 0 text).map fun text => (text, rest)

def readVerbatim (glyphs : List Glyph) : Option (List Char × List Glyph) :=
  match readTagText isLongTagChar glyphs with
  | some (c :: text, g :: rest) => if g.char == '>' then some (c :: text, rest) else none
  | _ => none

/-- Reads the handle and the suffix of a tag from behind its exclamation mark. A tag without a
handle has the handle `!`, and the lone mark is a suffix itself. -/
def readShorthand (glyphs : List Glyph) : Option (Token × List Glyph) :=
  match spanChars isNameChar glyphs with
  | (name, g :: rest) =>
    if g.char == '!' then
      match readTagText isTagChar rest with
      | some (c :: suffix, rest) => some (.tag ('!' :: name ++ ['!']) (c :: suffix), rest)
      | _ => none
    else
      (readTagText isTagChar (g :: rest)).map fun (suffix, rest) => (single (name ++ suffix), rest)
  | (name, []) => some (single name, [])
where
  single (suffix : List Char) : Token := if suffix.isEmpty then .tag [] ['!'] else .tag ['!'] suffix

def readTag (inFlow : Bool) (glyphs : List Glyph) : Option (Token × List Glyph) := do
  let (token, rest) ←
    if glyphs.head?.any fun g => g.char == '<' then
      (readVerbatim glyphs.tail).map fun (suffix, rest) => (.tag [] suffix, rest)
    else readShorthand glyphs
  if Glyph.atGap rest || (inFlow && rest.head?.any fun g => g.char == ',') then
    some (token, rest)
  else none

def readNumber (glyphs : List Glyph) : Option (Nat × List Glyph) :=
  let (digits, rest) := spanChars Char.isDigit glyphs
  if digits.isEmpty || decide (9 < digits.length) then none
  else some (digits.foldl (fun n c => 10 * n + (c.toNat - '0'.toNat)) 0, rest)

def readVersion (glyphs : List Glyph) : Option (Token × List Glyph) := do
  let (major, rest) ← readNumber (skipBlanks glyphs)
  match rest with
  | g :: rest =>
    if g.char == '.' then
      let (minor, rest) ← readNumber rest
      some (.versionDirective major minor, rest)
    else none
  | [] => none

/-- Reads a handle: a name between exclamation marks, or one such mark. -/
def readHandle (glyphs : List Glyph) : Option (List Char × List Glyph) :=
  match glyphs with
  | [] => none
  | g :: rest =>
    if g.char != '!' then none
    else
      match spanChars isNameChar rest with
      | (name, h :: after) =>
        if h.char == '!' then some ('!' :: name ++ ['!'], after)
        else if name.isEmpty then some (['!'], h :: after)
        else none
      | (name, []) => if name.isEmpty then some (['!'], []) else none

def readHandleDefinition (glyphs : List Glyph) : Option (Token × List Glyph) := do
  let (handle, rest) ← readHandle (skipBlanks glyphs)
  if rest.head?.any fun g => isBlank g.char then
    let (lead, rest) ← readTagText isLongTagChar (skipBlanks rest)
    if lead.isEmpty || !Glyph.atGap rest then none else some (.tagDirective handle lead, rest)
  else none

def readDirective (glyphs : List Glyph) : Option (Token × List Glyph) := do
  let (name, rest) := spanChars isNameChar glyphs
  if Glyph.atGap rest then
    let (token, rest) ←
      if name == "YAML".toList then readVersion rest
      else if name == "TAG".toList then readHandleDefinition rest
      else none
    let rest ← Glyph.skipLine false rest
    return (token, rest)
  else none

end Property
end Markup
end RowBatch
