import ReportCompiler.Cell.Value
import ReportCompiler.Workbook.Region
import Std.Data.TreeMap

/-!
# Sheets

A sheet has a title, cells by their positions and merged regions.

* `Sheet.cell?`, `Sheet.value`, `Sheet.kind` - reading.
* `Sheet.setCell`, `Sheet.setValue`, `Sheet.setFormula` - writing; a value keeps the formula and a
  formula keeps the value.
* `Sheet.merge` - one more merged region, which must not overlap another.
-/

namespace ReportCompiler

instance : Std.TransCmp Coordinate.order :=
  inferInstanceAs (Std.TransCmp (compareLex _ _))

/-- Cells by their positions, row by row. -/
abbrev CellMap := Std.TreeMap Coordinate Cell Coordinate.order

/-- A sheet. -/
structure Sheet where
  /-- The title. -/
  name : String
  /-- The cells that were ever written. -/
  cells : CellMap := ∅
  /-- The merged regions, in the order in which they were merged. -/
  merges : List Region := []

namespace Sheet

/-- A sheet without cells. -/
def new (name : String) : Sheet :=
  { name }

/-- The cell at a position, if it was ever written. -/
def cell? (s : Sheet) (p : Coordinate) : Option Cell :=
  s.cells[p]?

/-- The value at a position. -/
def value (s : Sheet) (p : Coordinate) : CellValue :=
  match s.cell? p with
  | some c => c.value
  | none => .empty

/-- The formula at a position. -/
def formula? (s : Sheet) (p : Coordinate) : Option String :=
  (s.cell? p).bind Cell.formula

/-- The cell at a position written anew. -/
def setCell (s : Sheet) (p : Coordinate) (c : Cell) : Sheet :=
  { s with cells := s.cells.insert p c }

/-- The value at a position, with its formula kept. -/
def setValue (s : Sheet) (p : Coordinate) (v : CellValue) : Sheet :=
  s.setCell p { (s.cell? p).getD {} with value := v }

/-- The formula at a position, with its value kept. -/
def setFormula (s : Sheet) (p : Coordinate) (formula : String) : Sheet :=
  s.setCell p (.ofFormula formula (s.value p))

/-- One more merged region, if it is not inverted and overlaps no other. -/
def merge (s : Sheet) (r : Region) : Except MergeFault Sheet :=
  if r.isInverted then .error (.inverted r)
  else match s.merges.find? r.overlaps with
    | some existing => .error (.overlap r existing)
    | none => .ok { s with merges := s.merges ++ [r] }

/-- A merged region covers the position. -/
def isHidden (s : Sheet) (p : Coordinate) : Bool :=
  s.merges.any fun r => r.contains p && p != r.first

/-- What the cell at a position is to whoever refers to it. -/
def kind (s : Sheet) (p : Coordinate) : CellKind :=
  if s.isHidden p then .merged
  else if (s.formula? p).isSome then .formula
  else .literal

/-- The number of cells that were ever written. -/
def cellCount (s : Sheet) : Nat :=
  s.cells.size

/-- The number of cells with a formula. -/
def formulaCount (s : Sheet) : Nat :=
  s.cells.toList.countP fun (_, c) => c.formula.isSome

end Sheet

end ReportCompiler
