import ReportCompiler.Cell.Coordinate
import ReportCompiler.Text.Ascii

/-!
# Report layouts

A layout says where a report workbook keeps what: the sheets of the report, of its labels and of the
raw data, the raw cells that have a meaning of their own, and the entries of the report to be
exported.

* `Layout` - the whole, with its `EventTable`, `Entry` and `Getter` parts.
* `LayoutFault` - why a layout cannot be used.
* `Layout.check` - what a usable layout satisfies; of several faults the first is reported.
* `Layout.withAccessor` - the layout with another name for the accessor.
-/

namespace ReportCompiler

/-- A single value that the profiler data can be asked for. -/
inductive Getter
  /-- The frequency of the counter timer. -/
  | counterTimerFreq
  /-- The time measured. -/
  | measuredTime
  /-- The name of the node. -/
  | nodeName
  /-- The number of the process. -/
  | processNo
  /-- The number of the core group. -/
  | cmgNo
  /-- The region measured. -/
  | measuredRegion
  /-- The length of vectors. -/
  | vectorLength
  deriving DecidableEq, Repr, Inhabited

namespace Getter

/-- All getters. -/
def all : List Getter :=
  [counterTimerFreq, measuredTime, nodeName, processNo, cmgNo, measuredRegion, vectorLength]

/-- The name of the getter in layouts. -/
def name : Getter → String
  | counterTimerFreq => "counter_timer_freq"
  | measuredTime => "measured_time"
  | nodeName => "node_name"
  | processNo => "process_no"
  | cmgNo => "cmg_no"
  | measuredRegion => "measured_region"
  | vectorLength => "vector_length"

/-- The getter of a name. -/
def ofName? (s : String) : Option Getter :=
  all.find? fun g => g.name == s

/-- The name of the getter in programs. -/
def method (g : Getter) : String :=
  "get_" ++ g.name

end Getter

/-- The rectangle of event counters on the data sheet.  Its header row holds the names of the
events, and each of its rows belongs to one thread.  Rows are counted from one. -/
structure EventTable where
  /-- The row of the headers. -/
  headerRow : Nat
  /-- The first row of the table. -/
  firstRow : Nat
  /-- The last row of the table. -/
  lastRow : Nat
  /-- The first column, in letters. -/
  firstColumn : String
  /-- The last column, in letters. -/
  lastColumn : String
  deriving DecidableEq, Repr

namespace EventTable

/-- The position lies in the table. -/
def contains (t : EventTable) (p : Coordinate) : Bool :=
  match column? t.firstColumn.toList, column? t.lastColumn.toList with
  | some first, some last =>
    t.firstRow ≤ p.row + 1 && p.row + 1 ≤ t.lastRow && first ≤ p.col && p.col ≤ last
  | _, _ => false

/-- The row of the headers, counted from zero. -/
def headerIndex (t : EventTable) : Nat :=
  t.headerRow - 1

/-- The thread of a row that is counted from zero. -/
def thread (t : EventTable) (row : Nat) : Nat :=
  row - t.headerRow

end EventTable

/-- What a layout exports. -/
inductive Entry
  /-- The value of one cell, under the label in another. -/
  | single (path : List String) (label value : String)
  /-- One value for each column: its key in the header row, its members in `rows` cells from the
  first row on, with a total row after them.  Rows are counted from one. -/
  | table (path : List String) (firstColumn lastColumn : String) (headerRow firstRow rows : Nat)
  deriving DecidableEq, Repr

/-- A report layout. -/
structure Layout where
  /-- The sheet of the report. -/
  defaultSheet : String := "report"
  /-- The sheet of the labels. -/
  labelSheet : String := "label"
  /-- The sheet of the raw data. -/
  dataSheet : String := "data"
  /-- The name of the accessor of the profiler data in programs. -/
  accessor : String := "fapp_xml"
  /-- The number of report files that a program expects. -/
  expectedReportFiles : Nat := 17
  /-- Data cells whose value is taken as it is. -/
  constants : List String := []
  /-- Data cells that are asked from the accessor, sorted by their coordinate texts. -/
  accessors : List (String × Getter) := []
  /-- The table of event counters. -/
  eventTable : Option EventTable := none
  /-- What is exported, in order. -/
  entries : List Entry := []
  deriving DecidableEq, Repr

/-- Why a layout cannot be used. -/
inductive LayoutFault
  /-- Its text is not a layout. -/
  | unreadable
  /-- The accessor is not an identifier. -/
  | badAccessor (name : String)
  /-- The accessor is a name that programs need. -/
  | reservedAccessor (name : String)
  /-- The name of a sheet is blank. -/
  | blankSheet
  /-- A coordinate is none. -/
  | badCoordinate (text : String)
  /-- The rows of the event table are not in order. -/
  | badEventRows (headerRow firstRow lastRow : Nat)
  /-- A column range goes backwards. -/
  | reversedColumns (first last : String)
  /-- A column range has an end that is no column. -/
  | badColumns (first last : String)
  /-- A row number is zero. -/
  | zeroRow
  /-- A table has no rows. -/
  | noRows (first last : String)
  deriving DecidableEq, Repr

/-- The message of a fault. -/
def LayoutFault.message : LayoutFault → String
  | unreadable => "the layout cannot be read"
  | badAccessor name => "accessor '" ++ name ++ "' is not a valid identifier"
  | reservedAccessor name =>
    "accessor '" ++ name ++ "' is a reserved name in the generated program"
  | blankSheet => "sheet names must not be empty"
  | badCoordinate text => "'" ++ text ++ "' is not a cell coordinate"
  | badEventRows headerRow firstRow lastRow =>
    "event table rows must satisfy 0 < header_row < first_row <= last_row, got " ++
      toString headerRow ++ "/" ++ toString firstRow ++ "/" ++ toString lastRow
  | reversedColumns first last => "column range " ++ first ++ ":" ++ last ++ " is reversed"
  | badColumns first last => "invalid column range " ++ first ++ ":" ++ last
  | zeroRow => "table rows are 1-based"
  | noRows first last => "table " ++ first ++ ":" ++ last ++ " has no rows"

/-! ### Names that programs need -/

/-- The text can name a variable: an ASCII letter or underscore, then letters, digits and
underscores. -/
def isIdentifier (s : String) : Bool :=
  match s.toList with
  | [] => false
  | c :: rest => (c.isAlpha || c = '_') && rest.all Text.isWordChar

/-- The keywords of the generated programs' language. -/
def keywords : List String :=
  ["False", "None", "True", "and", "as", "assert", "async", "await", "break", "class", "continue", "def",
   "del", "elif", "else", "except", "finally", "for", "from", "global", "if", "import", "in", "is",
   "lambda", "nonlocal", "not", "or", "pass", "raise", "return", "try", "while", "with", "yield"]

/-- The names that generated programs bind or use. -/
def programNames : List String :=
  ["argparse", "json", "sys", "xml", "ET", "defaultdict", "Path", "FappXml", "EXPECTED_REPORT_FILES",
   "sum_skip_empty", "count_non_empty", "_xls_text", "xls_concat", "add_path", "vba_guard_limit_lower",
   "vba_guard_limit_upper", "_parser", "_args", "results", "any", "enumerate", "int", "isinstance",
   "len", "print", "sorted", "str", "sum"]

/-- A program that binds the name would no longer work. -/
def isReserved (s : String) : Bool :=
  keywords.contains s || programNames.contains s

/-! ### Checking -/

/-- Checks that a text is a coordinate. -/
def checkCoordinate (s : String) : Except LayoutFault Unit :=
  if (coordinate? s).isSome then .ok () else .error (.badCoordinate s)

/-- Checks that two texts are columns, in order. -/
def checkColumns (first last : String) : Except LayoutFault Unit :=
  match column? first.toList, column? last.toList with
  | some a, some b => if a ≤ b then .ok () else .error (.reversedColumns first last)
  | _, _ => .error (.badColumns first last)

/-- Checks the rows and columns of an event table. -/
def EventTable.check (t : EventTable) : Except LayoutFault Unit :=
  if t.lastRow < t.firstRow || t.firstRow ≤ t.headerRow || t.headerRow == 0 then
    .error (.badEventRows t.headerRow t.firstRow t.lastRow)
  else checkColumns t.firstColumn t.lastColumn

/-- Checks the coordinates, columns and rows of an entry. -/
def Entry.check : Entry → Except LayoutFault Unit
  | .single path label value => (path ++ [label, value]).forM checkCoordinate
  | .table path firstColumn lastColumn headerRow firstRow rows => do
    path.forM checkCoordinate
    checkColumns firstColumn lastColumn
    if headerRow == 0 || firstRow == 0 then throw .zeroRow
    if rows == 0 then throw (.noRows firstColumn lastColumn)

namespace Layout

/-- Checks that the layout can be used. -/
def check (l : Layout) : Except LayoutFault Unit := do
  if !isIdentifier l.accessor then throw (.badAccessor l.accessor)
  if isReserved l.accessor then throw (.reservedAccessor l.accessor)
  if [l.defaultSheet, l.labelSheet, l.dataSheet].any fun s => (Text.trim s).isEmpty then
    throw .blankSheet
  (l.constants ++ l.accessors.map Prod.fst).forM checkCoordinate
  match l.eventTable with
  | some t => t.check
  | none => pure ()
  l.entries.forM Entry.check

/-- The layout, if it can be used. -/
def checked (l : Layout) : Except LayoutFault Layout := do
  l.check
  return l

/-- The layout with another name for the accessor, if it can be used so. -/
def withAccessor (l : Layout) (name : String) : Except LayoutFault Layout :=
  { l with accessor := name }.checked

end Layout

end ReportCompiler
