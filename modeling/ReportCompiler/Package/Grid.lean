import ReportCompiler.Package.Basic
import ReportCompiler.Workbook.Sheet

/-!
# Grids

Whoever reads a package delivers each sheet as two rectangles, one of values and one of formulas.
Each of them is only as large as what it holds, so the two begin at different positions of the
sheet.

* `Grid` - a rectangle of entries somewhere on a sheet, with `Grid.at?` the entry at a position.
* `Grid.entries`, `Grid.entriesWithin` - the entries with their positions, all of them and those up
  to the limits of a sheet.
* `Grid.ofWritten` - the smallest grid for some entries.
* `Delivery` - a package as its reader delivers it, with `Package.deliver`.
-/

namespace ReportCompiler

/-- A rectangle of entries, by the position of the first one and the rows. -/
structure Grid (α : Type) where
  /-- The position of the first entry. -/
  start : Coordinate
  /-- The rows, from the top. -/
  rows : List (List α)
  deriving DecidableEq, Repr

namespace Grid

variable {α : Type}

/-- The entry at a position of the sheet. -/
def at? (g : Grid α) (p : Coordinate) : Option α :=
  if g.start.row ≤ p.row ∧ g.start.col ≤ p.col then
    (g.rows[p.row - g.start.row]?).bind fun row => row[p.col - g.start.col]?
  else none

/-- The entries of a row with their positions, from the column `col` on. -/
def rowEntries (row col : Nat) (cells : List α) : List (Coordinate × α) :=
  (cells.zipIdx col).map fun (a, col) => (⟨row, col⟩, a)

/-- The entries with their positions, row by row. -/
def entries (g : Grid α) : List (Coordinate × α) :=
  (g.rows.zipIdx g.start.row).flatMap fun (cells, row) => rowEntries row g.start.col cells

/-- The entries with their positions, row by row, up to the limits of a sheet: each row ends where
the columns of a sheet end, and the rows end where those of a sheet do. -/
def entriesWithin (g : Grid α) : List (Coordinate × α) :=
  ((g.rows.zipIdx g.start.row).takeWhile fun (_, row) => row < maxRows).flatMap fun (cells, row) =>
    (rowEntries row g.start.col cells).takeWhile fun (p, _) => p.col < maxColumns

/-- The smallest grid that holds the entries written, with `blank` between them.  Of two entries for
the same position the later one stays. -/
def ofWritten (blank : α) : List (Coordinate × α) → Grid α
  | [] => ⟨⟨0, 0⟩, []⟩
  | (p, a) :: rest =>
    let first : Coordinate := rest.foldl (fun q (r, _) => ⟨min q.row r.row, min q.col r.col⟩) p
    let last : Coordinate := rest.foldl (fun q (r, _) => ⟨max q.row r.row, max q.col r.col⟩) p
    let written : Std.TreeMap Coordinate α Coordinate.order := .ofList ((p, a) :: rest) _
    ⟨first, (List.range' first.row (last.row + 1 - first.row)).map fun row =>
      (List.range' first.col (last.col + 1 - first.col)).map fun col => written.getD ⟨row, col⟩ blank⟩

end Grid

/-- A sheet as the reader of a package delivers it. -/
structure DeliveredSheet where
  /-- Its title. -/
  name : String
  /-- Its values, unless they cannot be read. -/
  values : Option (Grid StoredValue)
  /-- Its formulas, unless they cannot be read.  An empty text is no formula. -/
  formulas : Option (Grid String) := none
  /-- The texts of its merged regions. -/
  merges : List String := []
  deriving DecidableEq, Repr

/-- A package as its reader delivers it. -/
structure Delivery where
  /-- The sheets, in order. -/
  sheets : List DeliveredSheet := []
  /-- The defined names and their targets, in order. -/
  names : List (String × String) := []
  deriving DecidableEq, Repr

/-- The values of a sheet, unless one of them cannot be read. -/
def StoredSheet.valueGrid? (s : StoredSheet) : Option (Grid StoredValue) :=
  if s.cells.all fun c => c.value.isReadable then
    some (.ofWritten .none
      ((s.cells.filter fun c => !c.value.load.isEmpty).map fun c => (c.position, c.value)))
  else none

/-- The formulas of a sheet. -/
def StoredSheet.formulaGrid (s : StoredSheet) : Grid String :=
  .ofWritten "" ((s.cells.filter fun c => !c.formula.isEmpty).map fun c => (c.position, c.formula))

/-- What the reader of a package delivers. -/
def Package.deliver (p : Package) : Delivery where
  sheets := p.sheets.map fun s => ⟨s.name, s.valueGrid?, some s.formulaGrid, s.merges⟩
  names := p.names

end ReportCompiler
