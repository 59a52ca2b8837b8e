import ReportCompiler.Text.Blank
import ReportCompiler.Text.Escaped

/-!
# Text literals of the generated program

* `quoted` - a text as a single-quoted literal; the quote, the backslash and all controls are
  escaped.
* `textLiteral` - the literal for a text operand of a formula.  It is kept in its double quotes when
  the program reads them in the same way, and quoted anew when it has doubled quotes, backslashes or
  controls.
-/

namespace ReportCompiler.Formula

/-- Two hexadecimal digits at least. -/
def twoHexDigits (n : Nat) : List Char :=
  let ds := Text.hexDigits n
  List.replicate (2 - ds.length) '0' ++ ds

/-- One character of a single-quoted literal. -/
def quoteChar (c : Char) : List Char :=
  if c = '\\' || c = '\'' then ['\\', c]
  else if c = '\n' then ['\\', 'n']
  else if c = '\r' then ['\\', 'r']
  else if c = '\t' then ['\\', 't']
  else if Text.isControl c then '\\' :: 'x' :: twoHexDigits c.toNat
  else [c]

/-- The characters of the single-quoted literal of a text. -/
def quotedChars (cs : List Char) : List Char :=
  '\'' :: cs.flatMap quoteChar ++ ['\'']

/-- The single-quoted literal of a text. -/
def quoted (s : String) : String :=
  String.ofList (quotedChars s.toList)

/-- Every doubled quote made a single one, from left to right. -/
def undoubleQuotes : List Char → List Char
  | '"' :: '"' :: rest => '"' :: undoubleQuotes rest
  | c :: rest => c :: undoubleQuotes rest
  | [] => []

/-- The characters between the double quotes around a text operand; all of them when it does not
stand in double quotes. -/
def insideQuotes (cs : List Char) : List Char :=
  match cs with
  | '"' :: rest => if rest.getLast? = some '"' then rest.dropLast else cs
  | _ => cs

/-- A character that keeps a text operand from standing in the program as it is. -/
def needsRequoting (c : Char) : Bool :=
  c = '"' || c = '\\' || Text.isControl c

/-- The literal for a text operand of a formula. -/
def textLiteral (operand : String) : String :=
  let inner := insideQuotes operand.toList
  if inner.any needsRequoting then String.ofList (quotedChars (undoubleQuotes inner))
  else String.ofList ('"' :: inner ++ ['"'])

end ReportCompiler.Formula
