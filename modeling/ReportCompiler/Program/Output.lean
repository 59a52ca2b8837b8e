import ReportCompiler.Program.Session

/-!
# Outputs

Which variables go where in the result of a program.

* `Output`, `Output.render` - one entry of the result, and the line of the program that records it.
* `Source.outputs` - the entries of a layout, with the instructions that they need.
-/

namespace ReportCompiler

/-- What is recorded for an entry of the result. -/
inductive OutputValue
  /-- One variable. -/
  | single (var : String)
  /-- The variables of a column; those that are empty when the program runs are left out. -/
  | column (vars : List String)
  deriving DecidableEq, Repr

/-- The value as program text. -/
def OutputValue.render : OutputValue → String
  | single var => var
  | column vars => "[e for e in [" ++ Formula.Function.joined vars ++ "] if e != '']"

/-- An entry of the result. -/
structure Output where
  /-- The labels of the sections that it is in, the outermost first. -/
  path : List String
  /-- Its own label. -/
  label : String
  /-- What is recorded. -/
  value : OutputValue
  deriving DecidableEq, Repr

/-- The line of the program that records the entry. -/
def Output.render (o : Output) : String :=
  "add_path([" ++ Formula.Function.joined (o.path.map Formula.quoted) ++ "], " ++
    Formula.quoted o.label ++ ", " ++ o.value.render ++ ", results)"

/-- The cell of a sheet at a coordinate given as text. -/
def cellAt (sheet coord : String) : Except Error Address :=
  match coordinate? coord with
  | some p => .ok (.ofPosition sheet p)
  | none => .error (.resolution ⟨coord, .notCoordinate⟩)

/-- A column and a row counted from one, as text. -/
def coordinateText (col row : Nat) : String :=
  String.ofList (columnLetters col ++ Nat.toDigits 10 row)

namespace Source

/-- The label at a coordinate of a sheet. -/
def labelAt (src : Source) (sheet coord : String) : Except Error String :=
  (cellAt sheet coord).map fun a => (src.workbook.value a).display

/-- The variables of a cell and of the cells below it, `rows` in all. -/
def ensureColumn (src : Source) (first : Address) (rows : Nat) : SessionM (List String) :=
  (List.range rows).mapM fun i => src.ensure (first.below i)

/-- What a column of a table exports.  When a merged region goes on below its first cell, that cell
is all there is; otherwise the total below the members is compiled too, and not exported. -/
def columnValue (src : Source) (first : Address) (rows : Nat) : SessionM OutputValue := do
  if src.workbook.kind (first.below 1) = .merged then
    return .single (← src.ensure first)
  else
    let members ← src.ensureColumn first rows
    let _ ← src.ensure (first.below rows)
    return .column members

/-- The output of a column of a table. -/
def columnOutput (src : Source) (sheet : String) (path : List String)
    (headerRow firstRow rows col : Nat) : SessionM Output := do
  let label ← MonadExcept.ofExcept (src.labelAt sheet (coordinateText col headerRow))
  let first ← MonadExcept.ofExcept (cellAt sheet (coordinateText col firstRow))
  return { path, label, value := ← src.columnValue first rows }

/-- The outputs of an entry of the layout, on the sheet of the report. -/
def entryOutputs (src : Source) (sheet : String) : Entry → SessionM (List Output)
  | .single path label value => do
    let var ← src.ensure (← MonadExcept.ofExcept (cellAt sheet value))
    let path ← MonadExcept.ofExcept (path.mapM (src.labelAt sheet))
    let label ← MonadExcept.ofExcept (src.labelAt sheet label)
    return [{ path, label, value := .single var }]
  | .table path firstColumn lastColumn headerRow firstRow rows =>
    match columnRange? firstColumn lastColumn with
    | none => throw (.layout (.badColumns firstColumn lastColumn))
    | some columns => do
      let path ← MonadExcept.ofExcept (path.mapM (src.labelAt sheet))
      columns.mapM (src.columnOutput sheet path headerRow firstRow rows)

/-- The outputs of the layout, in order.  The cells that they need get their instructions. -/
def outputs (src : Source) : SessionM (List Output) :=
  match src.workbook.sheet? src.layout.defaultSheet with
  | none => throw (.resolution ⟨src.layout.defaultSheet, .reportSheetMissing⟩)
  | some sheet => return (← src.layout.entries.mapM (src.entryOutputs sheet.name)).flatten

end Source

end ReportCompiler
