import ReportCompiler.Cell.Coordinate

/-!
# Merged regions

A merged region is a rectangle of positions that shows as one cell, the one at its top left.  It
covers all others.

* `Region.contains`, `Region.overlaps` - positions of a region, and two regions that share one.
* `MergeFault` - why a region cannot be merged.
-/

namespace ReportCompiler

/-- A rectangle of positions, both corners included. -/
structure Region where
  /-- The top left corner. -/
  first : Coordinate
  /-- The bottom right corner. -/
  last : Coordinate
  deriving DecidableEq, Repr, Inhabited

namespace Region

/-- The position lies in the region. -/
def contains (r : Region) (p : Coordinate) : Bool :=
  r.first.row ≤ p.row && p.row ≤ r.last.row && r.first.col ≤ p.col && p.col ≤ r.last.col

/-- The bottom right corner lies above or left of the top left one. -/
def isInverted (r : Region) : Bool :=
  r.last.row < r.first.row || r.last.col < r.first.col

/-- Neither region lies wholly above, below, left or right of the other. -/
def overlaps (r s : Region) : Bool :=
  !(r.last.row < s.first.row || s.last.row < r.first.row ||
    r.last.col < s.first.col || s.last.col < r.first.col)

/-- A position as messages show it. -/
def cornerText (p : Coordinate) : String :=
  "(" ++ toString p.row ++ ", " ++ toString p.col ++ ")"

/-- The region as messages show it. -/
def text (r : Region) : String :=
  "MergedRegion \x7b start: " ++ cornerText r.first ++ ", end: " ++ cornerText r.last ++ " \x7d"

end Region

/-- Why a region cannot be merged. -/
inductive MergeFault
  /-- Its corners are the wrong way round. -/
  | inverted (region : Region)
  /-- It shares positions with a region merged before. -/
  | overlap (region existing : Region)
  deriving DecidableEq, Repr

/-- The message of a fault. -/
def MergeFault.message : MergeFault → String
  | inverted r => "inverted merge region " ++ r.text
  | overlap r existing => "merge " ++ r.text ++ " overlaps " ++ existing.text

end ReportCompiler
