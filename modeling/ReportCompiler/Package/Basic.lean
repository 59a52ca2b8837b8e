import ReportCompiler.Cell.Coordinate
import ReportCompiler.Cell.Value

/-!
# Workbook packages

A package is a workbook as a spreadsheet application stores it.  For each cell it may hold the value
that was last computed and the formula behind it.

* `StoredValue` - the values that packages tell apart, with `StoredValue.load` the value of the cell.
* `Package` - sheets and defined names, in order.
-/

namespace ReportCompiler

/-- A value as a package stores it. -/
inductive StoredValue
  /-- No value. -/
  | none
  /-- A text. -/
  | text (s : String)
  /-- A truth value. -/
  | boolean (b : Bool)
  /-- A number; dates are stored as numbers. -/
  | number (n : Decimal.Binary64)
  /-- A number that is stored as a whole one. -/
  | whole (n : Int)
  /-- An error value, by its text. -/
  | error (s : String)
  /-- A date or duration that is written out. -/
  | written (s : String)
  deriving DecidableEq, Repr

/-- The error values that packages may hold. -/
def storedErrors : List String :=
  ["#DIV/0!", "#N/A", "#NAME?", "#NULL!", "#NUM!", "#REF!", "#VALUE!"]

/-- The value can be read: it is no error value, or one that packages may hold. -/
def StoredValue.isReadable : StoredValue → Bool
  | error s => storedErrors.contains s
  | _ => true

/-- The value of the cell.  An empty text is no value. -/
def StoredValue.load : StoredValue → CellValue
  | none => .empty
  | text s => if s.isEmpty then .empty else .text s
  | boolean b => .boolean b
  | number n => .number n
  | whole n => .number (.ofScaled (n < 0) ⟨n.natAbs, 0⟩)
  | error s => .error s
  | written s => .text s

/-- A cell as a package stores it. -/
structure StoredCell where
  /-- Its position. -/
  position : Coordinate
  /-- Its value. -/
  value : StoredValue := .none
  /-- Its formula, or the empty text. -/
  formula : String := ""
  deriving DecidableEq, Repr

/-- A sheet as a package stores it. -/
structure StoredSheet where
  /-- Its title. -/
  name : String
  /-- Its cells. -/
  cells : List StoredCell := []
  /-- The texts of its merged regions. -/
  merges : List String := []
  deriving DecidableEq, Repr

/-- A workbook as a spreadsheet application stores it. -/
structure Package where
  /-- The sheets, in order. -/
  sheets : List StoredSheet := []
  /-- The defined names and their targets, in order. -/
  names : List (String × String) := []
  deriving DecidableEq, Repr

end ReportCompiler
