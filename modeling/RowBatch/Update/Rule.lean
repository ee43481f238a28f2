import RowBatch.Text.Basic
import RowBatch.Fields

/-!
The rules by which an upsert changes a column of the row that is already there, read from a short
expression such as `balance+amount` or `tags|topic|,`.
-/

namespace RowBatch

inductive Operator where
  | add
  | subtract
  | multiply
  | divide
  | concat (delimiter : Char)
deriving DecidableEq, Inhabited

namespace Operator

def symbols : List Char := ['+', '-', '*', '/', '|']

def isSymbol (c : Char) : Bool := symbols.contains c

/-- The operator of a symbol; the concatenation needs exactly one character as its delimiter. -/
def ofSymbol (symbol : Char) (delimiter : Option String) : Except ConfigError Operator :=
  match symbol with
  | '+' => .ok .add
  | '-' => .ok .subtract
  | '*' => .ok .multiply
  | '/' => .ok .divide
  | '|' =>
    match (delimiter.getD "").toList with
    | [c] => .ok (.concat c)
    | _ => .error (.missingConcatDelimiter (delimiter.getD ""))
  | other => .error (.unsupportedOperator other)

end Operator

inductive UpdateRule where
  | replace (column : String)
  | combine (column : String) (operator : Operator) (operand : String)
deriving DecidableEq, Inhabited

namespace UpdateRule

def column : UpdateRule → String
  | .replace column => column
  | .combine column _ _ => column

def operand? : UpdateRule → Option String
  | .replace _ => none
  | .combine _ _ operand => some operand

/-- Accepts a reference that is a name: not empty, and without a second operator. -/
def reference (raw : String) (operand : List Char) : Except ConfigError String :=
  if operand.isEmpty then .error (.malformedExpression raw .missingReference)
  else if operand.any Operator.isSymbol then .error (.malformedExpression raw .secondOperator)
  else .ok (String.ofList operand)

/-- Reads `column`, `column+operand` (also with `-`, `*`, `/`) or `column|operand|d`. -/
def parse (raw : String) : Except ConfigError UpdateRule :=
  if Text.isBlank raw then .error .emptyExpression
  else
    match Text.cutAt Operator.isSymbol raw.toList with
    | none => .ok (.replace raw)
    | some ([], _, _) => .error (.malformedExpression raw .missingTarget)
    | some (column, '|', rest) =>
      match Text.cutAt (· == '|') rest with
      | some (operand, _, [delimiter]) =>
        (reference raw operand).map (.combine (String.ofList column) (.concat delimiter))
      | _ => .error (.missingConcatDelimiter raw)
    | some (column, symbol, rest) => do
      let operator ← Operator.ofSymbol symbol none
      let operand ← reference raw rest
      return .combine (String.ofList column) operator operand

/-- A character inside a string literal. Both dialects write a quote twice; where a backslash
escapes, it is written twice as well. -/
def literalChar (d : Dialect) (c : Char) : String :=
  if c = '\x27' then "''"
  else if c = '\\' ∧ d = .values then "\\\\"
  else c.toString

def clause (d : Dialect) (table : String) (rule : UpdateRule) : String :=
  let old operand := table ++ "." ++ operand
  match rule with
  | .replace column => column ++ " = " ++ d.incoming column
  | .combine column .add operand =>
    column ++ " = " ++ d.incoming column ++ " + " ++ old operand
  | .combine column .subtract operand =>
    column ++ " = " ++ d.incoming column ++ " - " ++ old operand
  | .combine column .multiply operand =>
    column ++ " = " ++ d.incoming column ++ " * " ++ old operand
  | .combine column .divide operand =>
    column ++ " = " ++ d.incoming column ++ " / " ++ old operand
  | .combine column (.concat delimiter) operand =>
    column ++ " = CONCAT_WS('" ++ literalChar d delimiter ++ "', " ++ d.incoming column ++ ", " ++
      old operand ++ ")"

/-- Reads every expression, or gives the error of the first that can not be read. -/
def parseAll : List String → Except ConfigError (List UpdateRule)
  | [] => .ok []
  | raw :: rest => do
    let rule ← parse raw
    let rules ← parseAll rest
    return rule :: rules

def compile (d : Dialect) (table : String) (raws : List String) :
    Except ConfigError (List String) :=
  (parseAll raws).map fun rules => rules.map (clause d table)

end UpdateRule
end RowBatch
