import ReportCompiler.Layout.Basic
import ReportCompiler.Toml.Reader

/-!
# Layouts as documents

A layout is written as a TOML document.  Fields that are missing have their defaults, fields that
are unknown are ignored, and everything else must have the right type.

* `Layout.ofFields?` - the layout of a document.
* `Layout.parse` - the layout of a text, checked.
-/

namespace ReportCompiler

open Toml (Value Fields)

namespace Layout

/-- A value that must be a string. -/
def text? : Value → Option String
  | .text s => some s
  | _ => none

/-- A value that must be a whole number. -/
def count? : Value → Option Nat
  | .integer n => if 0 ≤ n then some n.toNat else none
  | _ => none

/-- A value that must be an array. -/
def items? : Value → Option (List Value)
  | .array vs => some vs
  | .tables ts => some (ts.map (.table .header))
  | _ => none

/-- A value that must be an array of strings. -/
def texts? (v : Value) : Option (List String) :=
  (items? v).bind fun vs => vs.mapM text?

/-- A field that may be missing. -/
def optional {α : Type} (read : Value → Option α) (default : α) : Option Value → Option α
  | none => some default
  | some v => read v

/-- A field that may not be missing. -/
def required {α : Type} (read : Value → Option α) (v : Option Value) : Option α :=
  v.bind read

/-- The fields of a record with the given names.  It is a table, or the array of its values in the
order of the names. -/
def record? (names : List String) : Value → Option (List (Option Value))
  | .table _ fs => some (names.map (Fields.get? fs))
  | .array vs => some ((List.range names.length).map (vs[·]?))
  | _ => none

/-- The name of a getter, or a table whose only field has that name and no content. -/
def getter? : Value → Option Getter
  | .text s => Getter.ofName? s
  | .table _ [(name, .table _ [])] => Getter.ofName? name
  | .table _ [(name, .array [])] => Getter.ofName? name
  | _ => none

/-- The getter of a field. -/
def getterField? (field : String × Value) : Option (String × Getter) :=
  (getter? field.2).map (field.1, ·)

/-- The getters by their coordinates, sorted. -/
def getters? : Value → Option (List (String × Getter))
  | .table _ fs => do
    let gs ← fs.mapM getterField?
    return gs.mergeSort fun a b => !(b.1 < a.1)
  | _ => none

/-- An event table. -/
def eventTable? (v : Value) : Option EventTable :=
  match record? ["header_row", "first_row", "last_row", "first_column", "last_column"] v with
  | some [headerRow, firstRow, lastRow, firstColumn, lastColumn] => do
    return {
      headerRow := ← required count? headerRow
      firstRow := ← required count? firstRow
      lastRow := ← required count? lastRow
      firstColumn := ← required text? firstColumn
      lastColumn := ← required text? lastColumn }
  | _ => none

/-- The kind of an entry, and the value that holds its other fields. -/
def entryKind? : Value → Option (String × Value)
  | .table origin fs => ((Fields.get? fs "kind").bind text?).map (·, .table origin fs)
  | .array (.text kind :: vs) => some (kind, .array vs)
  | _ => none

/-- The number of values of a record that is written as an array. -/
def arrayLength : Value → Nat
  | .array vs => vs.length
  | _ => 0

/-- The number of rows of a table that does not say. -/
def defaultRows : Nat := 12

/-- An entry of kind `single`. -/
def singleEntry? (v : Value) : Option Entry :=
  match record? ["path", "label", "value"] v with
  | some [path, label, value] =>
    if 3 < arrayLength v then none
    else do
      return .single (← optional texts? [] path) (← required text? label) (← required text? value)
  | _ => none

/-- An entry of kind `table`. -/
def tableEntry? (v : Value) : Option Entry :=
  match record? ["path", "first_column", "last_column", "header_row", "first_row", "rows"] v with
  | some [path, firstColumn, lastColumn, headerRow, firstRow, rows] =>
    if 6 < arrayLength v then none
    else do
      return .table (← optional texts? [] path) (← required text? firstColumn)
        (← required text? lastColumn) (← required count? headerRow) (← required count? firstRow)
        (← optional count? defaultRows rows)
  | _ => none

/-- An entry, by its kind. -/
def entry? (v : Value) : Option Entry :=
  match entryKind? v with
  | some ("single", fields) => singleEntry? fields
  | some ("table", fields) => tableEntry? fields
  | _ => none

/-- The entries. -/
def entries? (v : Value) : Option (List Entry) :=
  (items? v).bind fun vs => vs.mapM entry?

/-- The layout of a document, if all its fields have the right types. -/
def ofFields? (fs : Fields) : Option Layout := do
  let base : Layout := {}
  return {
    defaultSheet := ← optional text? base.defaultSheet (fs.get? "default_sheet")
    labelSheet := ← optional text? base.labelSheet (fs.get? "label_sheet")
    dataSheet := ← optional text? base.dataSheet (fs.get? "data_sheet")
    accessor := ← optional text? base.accessor (fs.get? "accessor")
    expectedReportFiles :=
      ← optional count? base.expectedReportFiles (fs.get? "expected_report_files")
    constants := ← optional texts? base.constants (fs.get? "constants")
    accessors := ← optional getters? base.accessors (fs.get? "accessors")
    eventTable := ← optional (fun v => (eventTable? v).map some) none (fs.get? "event_table")
    entries := ← optional entries? base.entries (fs.get? "entry") }

/-- The layout that a text describes, if it can be used. -/
def parse (s : String) : Except LayoutFault Layout :=
  match (Toml.parse? s).bind ofFields? with
  | some l => l.checked
  | none => .error .unreadable

end Layout

end ReportCompiler
