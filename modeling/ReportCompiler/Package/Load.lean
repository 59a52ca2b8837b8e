import ReportCompiler.Files.Path
import ReportCompiler.Package.Formula
import ReportCompiler.Package.Grid
import ReportCompiler.Package.Merge

/-!
# Loading packages

Loading a package fills a workbook.  What the workbook refuses is counted and left out, except for a
second sheet of the same title, which makes the whole package unusable.

* `LoadFault` - why a workbook cannot be loaded.
* `LoadCounts`, `LoadCounts.summary` - what was loaded.
* `LoadingSheet` - one sheet, into which first the values and then the formulas are written.
* `Delivery.load`, `Package.load` - the workbook of a package.
* `hasMerges`, `opensPackage` - what the name of a file decides.
-/

namespace ReportCompiler

/-- Why a workbook cannot be loaded. -/
inductive LoadFault
  /-- The file is no package. -/
  | unopened
  /-- The package has no sheets. -/
  | noSheets
  /-- A sheet holds something that is no value. -/
  | unreadableSheet (name : String)
  /-- Two sheets have the same title, up to case. -/
  | duplicateSheet (why : DuplicateSheet)
  deriving DecidableEq, Repr

/-- The message of a fault, for the file at a path. -/
def LoadFault.message (path : String) : LoadFault → String
  | unopened => "Failed to open workbook '" ++ path ++ "': the file is not a workbook package"
  | noSheets => "'" ++ path ++ "' contains no sheets"
  | unreadableSheet name => "Failed to read sheet '" ++ name ++ "': a cell holds an unknown value"
  | duplicateSheet why => why.message

/-- What was loaded. -/
structure LoadCounts where
  /-- The number of sheets. -/
  sheets : Nat := 0
  /-- The number of values. -/
  values : Nat := 0
  /-- The number of formulas. -/
  formulas : Nat := 0
  /-- The number of defined names. -/
  names : Nat := 0
  /-- The number of merged regions. -/
  merges : Nat := 0
  /-- The number of merged regions that the workbook refused. -/
  mergesDropped : Nat := 0
  /-- The defined names that the workbook refused. -/
  namesSkipped : List String := []
  deriving DecidableEq, Repr

/-- What was loaded, in one line. -/
def LoadCounts.summary (c : LoadCounts) : String :=
  String.intercalate ", " <|
    [toString c.sheets ++ (if c.sheets = 1 then " sheet" else " sheets"),
     toString c.values ++ " values", toString c.formulas ++ " formulas"] ++
    (if c.names = 0 then [] else [toString c.names ++ " names"]) ++
    (if c.merges = 0 then [] else [toString c.merges ++ " merged regions"])

/-- A sheet that is being loaded. -/
structure LoadingSheet where
  /-- The sheet so far. -/
  sheet : Sheet
  /-- The number of values so far. -/
  values : Nat := 0
  /-- The number of formulas so far. -/
  formulas : Nat := 0

namespace LoadingSheet

/-- One more entry of the values. -/
def addValue (l : LoadingSheet) (p : Coordinate) (stored : StoredValue) : LoadingSheet :=
  let v := stored.load
  if v.isEmpty then l else { l with sheet := l.sheet.setValue p v, values := l.values + 1 }

/-- One more entry of the formulas, which is passed over if it lies outside the sheet. -/
def addFormula (l : LoadingSheet) (p : Coordinate) (stored : String) : LoadingSheet :=
  if stored.isEmpty then l
  else if p.InSheet then
    { l with
      sheet := l.sheet.setFormula p (Package.storedFormula stored)
      formulas := l.formulas + 1 }
  else l

end LoadingSheet

namespace DeliveredSheet

/-- The sheet with its values, up to the limits of a sheet. -/
def loadValues (name : String) (values : Grid StoredValue) : LoadingSheet :=
  values.entriesWithin.foldl (fun l (p, stored) => l.addValue p stored) { sheet := .new name }

/-- The sheet with its formulas too.  If they cannot be read, it has none. -/
def loadFormulas (formulas : Option (Grid String)) (l : LoadingSheet) : LoadingSheet :=
  match formulas with
  | none => l
  | some formulas => formulas.entries.foldl (fun l (p, stored) => l.addFormula p stored) l

/-- The sheet with its values and formulas, unless the values cannot be read. -/
def load? (s : DeliveredSheet) : Option LoadingSheet :=
  s.values.map fun values => loadFormulas s.formulas (loadValues s.name values)

end DeliveredSheet

/-- A workbook that is being loaded. -/
structure Loading where
  /-- The workbook so far. -/
  workbook : Workbook := {}
  /-- What was loaded so far. -/
  counts : LoadCounts := {}

namespace Loading

/-- One more sheet, with its values and formulas. -/
def addSheet (l : Loading) (s : DeliveredSheet) : Except LoadFault Loading :=
  match s.load? with
  | none => .error (.unreadableSheet s.name)
  | some loaded =>
    match l.workbook.addSheet loaded.sheet with
    | .error why => .error (.duplicateSheet why)
    | .ok workbook =>
      .ok {
        workbook
        counts := { l.counts with
          sheets := l.counts.sheets + 1
          values := l.counts.values + loaded.values
          formulas := l.counts.formulas + loaded.formulas } }

/-- One more defined name, unless it is refused. -/
def addName (l : Loading) (name target : String) : Loading :=
  match l.workbook.defineName name target with
  | .ok workbook => { workbook, counts := { l.counts with names := l.counts.names + 1 } }
  | .error _ =>
    { l with counts := { l.counts with namesSkipped := l.counts.namesSkipped ++ [name] } }

/-- One more merged region of a sheet, unless it is refused. -/
def addMerge (name : String) (l : Loading) (r : Region) : Loading :=
  match l.workbook.sheet? name with
  | none => l
  | some sheet =>
    match sheet.merge r with
    | .ok merged =>
      { workbook := (l.workbook.modifySheet? name fun _ => merged).getD l.workbook
        counts := { l.counts with merges := l.counts.merges + 1 } }
    | .error _ => { l with counts := { l.counts with mergesDropped := l.counts.mergesDropped + 1 } }

/-- The merged regions of a sheet. -/
def addMerges (l : Loading) (s : DeliveredSheet) : Loading :=
  (s.merges.filterMap Package.mergeRegion?).foldl (addMerge s.name) l

end Loading

/-- The workbook of what was delivered, and what was loaded.  Merged regions are loaded only if
`withMerges` says so. -/
def Delivery.load (d : Delivery) (withMerges : Bool) : Except LoadFault Loading := do
  if d.sheets.isEmpty then throw .noSheets
  let sheets ← d.sheets.foldlM Loading.addSheet {}
  let named := d.names.foldl (fun l (name, target) => l.addName name target) sheets
  return if withMerges then d.sheets.foldl Loading.addMerges named else named

/-- The workbook of a package, and what was loaded. -/
def Package.load (p : Package) (withMerges : Bool) : Except LoadFault Loading :=
  p.deliver.load withMerges

/-- A file of this name has merged regions: its extension is one of two, in any case. -/
def hasMerges (path : String) : Bool :=
  match Files.extension? path with
  | some e => Text.sameFold e "xlsx" || Text.sameFold e "xlsm"
  | none => false

/-- The extensions of formats that are not packages. -/
def foreignExtensions : List String :=
  ["xls", "xla", "xlsb", "ods"]

/-- A file of this name is opened as a package if it is one. -/
def opensPackage (path : String) : Bool :=
  match Files.extension? path with
  | some e => !foreignExtensions.contains e
  | none => true

end ReportCompiler
