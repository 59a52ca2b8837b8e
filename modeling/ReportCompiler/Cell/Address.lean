import ReportCompiler.Cell.Coordinate
import ReportCompiler.Text.Ascii

/-!
# Addresses

An address names one cell of a workbook: the title of its sheet and the position on it.

* `Address.text` - the address as shown, `sheet!B2`.
* `Address.variableName` - the name of the cell in a generated program.
* `Address.order` - by title, then row by row.
-/

namespace ReportCompiler

/-- A cell of a workbook. -/
structure Address where
  /-- The title of the sheet. -/
  sheet : String
  /-- The row, counted from zero. -/
  row : Nat
  /-- The column, counted from zero. -/
  col : Nat
  deriving DecidableEq, Repr, Inhabited

namespace Address

/-- The position on the sheet. -/
def position (a : Address) : Coordinate :=
  ⟨a.row, a.col⟩

/-- The cell at a position of a sheet. -/
def ofPosition (sheet : String) (p : Coordinate) : Address :=
  ⟨sheet, p.row, p.col⟩

/-- The coordinate without the sheet. -/
def coordinate (a : Address) : String :=
  a.position.text

/-- The address as shown. -/
def text (a : Address) : String :=
  a.sheet ++ "!" ++ a.coordinate

/-- The cell so many rows further down. -/
def below (a : Address) (rows : Nat) : Address :=
  { a with row := a.row + rows }

/-- The characters of a title with everything that a variable name cannot hold made an underscore,
and an underscore in front of a leading digit. -/
def sanitizedTitle (title : List Char) : List Char :=
  match title.map fun c => if Text.isWordChar c then c else '_' with
  | c :: rest => if c.isDigit then '_' :: c :: rest else c :: rest
  | [] => []

/-- The name of the cell in a generated program. -/
def variableName (a : Address) : String :=
  String.ofList (sanitizedTitle a.sheet.toList ++ '_' :: a.position.chars)

/-- By title, then row by row, and from left to right in a row. -/
def order : Address → Address → Ordering :=
  compareLex (compareOn Address.sheet) (compareLex (compareOn Address.row) (compareOn Address.col))

end Address

end ReportCompiler
