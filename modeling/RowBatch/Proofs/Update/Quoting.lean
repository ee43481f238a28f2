import RowBatch.Update.Rule

/-!
String literals as a server reads them, and the delimiter of a concatenation in such a literal: it
is read as the delimiter that was written, and the literal ends where it was closed.
-/

namespace RowBatch

/-- Whether a backslash in a string literal escapes the character behind it. -/
def Dialect.escapesBackslash : Dialect → Bool
  | .excluded => false
  | .values => true

namespace Literal

/-- What a character stands for behind a backslash that escapes it. A percent sign and an underscore
keep the backslash. -/
def unescape : Char → List Char
  | '0' => ['\x00']
  | 'b' => ['\x08']
  | 'n' => ['\n']
  | 'r' => ['\r']
  | 't' => ['\t']
  | 'Z' => ['\x1a']
  | '%' => ['\\', '%']
  | '_' => ['\\', '_']
  | c => [c]

def prepend (front : List Char) (read : Option (List Char × List Char)) :
    Option (List Char × List Char) :=
  read.map fun (text, rest) => (front ++ text, rest)

/-- Reads a literal behind its opening quote: the text that it stands for, and what follows its
closing quote. Two quotes stand for one. -/
def readBody (d : Dialect) : List Char → Option (List Char × List Char)
  | [] => none
  | [c] => if c = '\x27' then some ([], []) else none
  | c :: next :: rest =>
    if c = '\x27' then
      if next = '\x27' then prepend ['\x27'] (readBody d rest) else some ([], next :: rest)
    else if c = '\\' ∧ d.escapesBackslash = true then prepend (unescape next) (readBody d rest)
    else prepend [c] (readBody d (next :: rest))

def read (d : Dialect) : List Char → Option (List Char × List Char)
  | '\x27' :: body => readBody d body
  | _ => none

theorem readBody_close (d : Dialect) {next : Char} (rest : List Char) (h : next ≠ '\x27') :
    readBody d ('\x27' :: next :: rest) = some ([], next :: rest) := by
  rw [readBody, if_pos rfl, if_neg h]

theorem readBody_plain {d : Dialect} {c : Char} (rest : List Char) (hquote : c ≠ '\x27')
    (hescape : ¬(c = '\\' ∧ d.escapesBackslash = true)) :
    readBody d (c :: rest) = prepend [c] (readBody d rest) := by
  cases rest with
  | nil => simp only [readBody, if_neg hquote]; rfl
  | cons next rest => rw [readBody, if_neg hquote, if_neg hescape]

theorem readBody_literalChar (d : Dialect) (c : Char) (rest : List Char) :
    readBody d ((UpdateRule.literalChar d c).toList ++ rest) = prepend [c] (readBody d rest) := by
  by_cases hquote : c = '\x27'
  · subst hquote
    have htwice : (UpdateRule.literalChar d '\x27').toList = ['\x27', '\x27'] := by
      simp [UpdateRule.literalChar]
    rw [htwice, List.cons_append, List.cons_append, readBody, if_pos rfl, if_pos rfl]
    rfl
  by_cases hescape : c = '\\' ∧ d = .values
  · obtain ⟨rfl, rfl⟩ := hescape
    have htwice : (UpdateRule.literalChar .values '\\').toList = ['\\', '\\'] := by
      simp [UpdateRule.literalChar]
    rw [htwice, List.cons_append, List.cons_append, readBody, if_neg (by decide),
      if_pos (by decide)]
    rfl
  · have hplain : (UpdateRule.literalChar d c).toList = [c] := by
      rw [UpdateRule.literalChar, if_neg hquote, if_neg hescape]
      simp
    have hkeeps : ¬(c = '\\' ∧ d.escapesBackslash = true) := by
      rintro ⟨rfl, hd⟩
      cases d with
      | excluded => exact nomatch hd
      | values => exact hescape ⟨rfl, rfl⟩
    rw [hplain]
    exact readBody_plain rest hquote hkeeps

end Literal

namespace UpdateRule

/-- The clause of a concatenation: the literal behind the name of the function is closed where its
text ends, and is read as the delimiter of the rule. -/
theorem delimiter_survives (column operand : String) (delimiter : Char) (d : Dialect)
    (table : String) :
    ∃ literal : String,
      clause d table (.combine column (.concat delimiter) operand) =
        column ++ " = CONCAT_WS(" ++ literal ∧
      Literal.read d literal.toList =
        some ([delimiter],
          (", " ++ d.incoming column ++ ", " ++ table ++ "." ++ operand ++ ")").toList) := by
  refine ⟨"\x27" ++ (literalChar d delimiter ++ ("\x27" ++
    (", " ++ d.incoming column ++ ", " ++ table ++ "." ++ operand ++ ")"))), ?_, ?_⟩
  · simp [clause, ← String.toList_inj]
  · have hopen : ("\x27" : String).toList = ['\x27'] := by simp
    have hnext : (", " : String).toList = [',', ' '] := by simp
    simp only [String.toList_append, hopen, hnext, List.cons_append, List.nil_append,
      List.append_assoc, Literal.read]
    rw [Literal.readBody_literalChar, Literal.readBody_close d _ (by decide)]
    rfl

end UpdateRule
end RowBatch
