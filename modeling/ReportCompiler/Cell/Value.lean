import ReportCompiler.Decimal.Text
import ReportCompiler.Formula.Expr
import ReportCompiler.Formula.Quoted

/-!
# Cells and their values

A cell holds the value that the spreadsheet last computed for it, and the formula behind it if there
is one.

* `CellValue.display` - the value as a label or header.
* `CellValue.toExpr` - the value as a literal of the generated program.
* `Cell.ofFormula` - a cell with a formula, which always begins with an equals sign.
-/

namespace ReportCompiler

/-- The value of a cell. -/
inductive CellValue
  /-- No value. -/
  | empty
  /-- A text. -/
  | text (s : String)
  /-- A number. -/
  | number (n : Decimal.Binary64)
  /-- A truth value. -/
  | boolean (b : Bool)
  /-- An error value, by its text. -/
  | error (s : String)
  deriving DecidableEq, Repr, Inhabited

namespace CellValue

/-- There is no value. -/
def isEmpty : CellValue → Bool
  | empty => true
  | _ => false

/-- The value as a label or header. -/
def display : CellValue → String
  | empty => ""
  | text s => s
  | number n => Decimal.literalText n
  | boolean b => if b then "TRUE" else "FALSE"
  | error s => s

/-- The value as a literal of the generated program.  No value is the empty text, which the
program's sums and counts skip. -/
def toExpr : CellValue → Formula.Expr
  | empty => .text (Formula.quoted "")
  | text s => .text (Formula.quoted s)
  | number n => .number (Decimal.literalText n)
  | boolean b => .bool b
  | error s => .text (Formula.quoted s)

end CellValue

/-- A cell. -/
structure Cell where
  /-- The value last computed. -/
  value : CellValue := .empty
  /-- The formula, with its equals sign. -/
  formula : Option String := none
  deriving DecidableEq, Repr, Inhabited

/-- A formula text with an equals sign in front, if it has none. -/
def withEquals (formula : String) : String :=
  if formula.toList.head? = some '=' then formula else "=" ++ formula

/-- A cell with a formula. -/
def Cell.ofFormula (formula : String) (value : CellValue) : Cell :=
  ⟨value, some (withEquals formula)⟩

/-- What a cell is to whoever refers to it. -/
inductive CellKind
  /-- It has a formula. -/
  | formula
  /-- It has at most a value. -/
  | literal
  /-- It is covered by a merged region. -/
  | merged
  deriving DecidableEq, Repr, Inhabited

end ReportCompiler
