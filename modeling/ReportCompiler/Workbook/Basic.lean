import ReportCompiler.Cell.Address
import ReportCompiler.Workbook.Names
import ReportCompiler.Workbook.Sheet

/-!
# Workbooks

A workbook has sheets in order and defined names.  A sheet is found by its title; if none has
exactly that title, the case of ASCII letters is ignored.

* `Workbook.addSheet` - one more sheet, whose title must be new up to case.
* `Workbook.sheet?`, `Workbook.modifySheet?` - finding and changing a sheet.
* `Workbook.cell?`, `Workbook.value`, `Workbook.kind` - reading a cell by its address.
-/

namespace ReportCompiler

/-- A workbook. -/
structure Workbook where
  /-- The sheets, in order. -/
  sheets : List Sheet := []
  /-- The defined names. -/
  names : Names := {}

/-- A title that a workbook already has, up to case. -/
structure DuplicateSheet where
  /-- The title. -/
  name : String
  deriving DecidableEq, Repr

/-- The message of the refusal. -/
def DuplicateSheet.message (d : DuplicateSheet) : String :=
  "duplicate sheet name '" ++ d.name ++ "'"

namespace Workbook

/-- The place of the sheet that a title names: an equal title first, then one equal up to case. -/
def sheetIndex? (wb : Workbook) (name : String) : Option Nat :=
  (wb.sheets.findIdx? fun s => s.name == name).or
    (wb.sheets.findIdx? fun s => Text.sameFold s.name name)

/-- The sheet that a title names: an equal title first, then one equal up to case. -/
def sheet? (wb : Workbook) (name : String) : Option Sheet :=
  (wb.sheets.find? fun s => s.name == name).or
    (wb.sheets.find? fun s => Text.sameFold s.name name)

/-- One more sheet, if its title is new up to case. -/
def addSheet (wb : Workbook) (s : Sheet) : Except DuplicateSheet Workbook :=
  if (wb.sheet? s.name).isSome then .error ⟨s.name⟩
  else .ok { wb with sheets := wb.sheets ++ [s] }

/-- The sheet that a title names, changed. -/
def modifySheet? (wb : Workbook) (name : String) (f : Sheet → Sheet) : Option Workbook :=
  (wb.sheetIndex? name).map fun i => { wb with sheets := wb.sheets.modify i f }

/-- A name defined, or defined anew. -/
def defineName (wb : Workbook) (name target : String) : Except NameFault Workbook :=
  match wb.names.set (.of name target) with
  | .error fault => .error fault
  | .ok names => .ok { wb with names }

/-- The titles of the sheets, in order. -/
def sheetNames (wb : Workbook) : List String :=
  wb.sheets.map Sheet.name

/-- The cell at an address, if it was ever written. -/
def cell? (wb : Workbook) (a : Address) : Option Cell :=
  (wb.sheet? a.sheet).bind fun s => s.cell? a.position

/-- The value at an address. -/
def value (wb : Workbook) (a : Address) : CellValue :=
  match wb.sheet? a.sheet with
  | some s => s.value a.position
  | none => .empty

/-- What the cell at an address is to whoever refers to it. -/
def kind (wb : Workbook) (a : Address) : CellKind :=
  match wb.sheet? a.sheet with
  | some s => s.kind a.position
  | none => .literal

/-- The formula at an address. -/
def formula? (wb : Workbook) (a : Address) : Option String :=
  (wb.cell? a).bind Cell.formula

/-- The number of cells with a formula. -/
def formulaCount (wb : Workbook) : Nat :=
  wb.sheets.foldl (fun n s => n + s.formulaCount) 0

end Workbook

end ReportCompiler
