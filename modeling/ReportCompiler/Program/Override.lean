import ReportCompiler.Error

/-!
# Overrides

Some cells of the label and data sheets are not compiled from their content: labels are taken as
texts, constants as values, and profiler readings are asked from the accessor when the program runs.

* `Override`, `Override.toExpr` - what stands for such a cell.
* `overrideOf` - the override of a cell, if it has one.
-/

namespace ReportCompiler

/-- What stands for a cell in place of its content. -/
inductive Override
  /-- The text of a label. -/
  | label (text : String)
  /-- A constant of the data sheet. -/
  | constant (value : CellValue)
  /-- A single value that the accessor is asked for. -/
  | getter (g : Getter)
  /-- The counter of an event on a thread. -/
  | event (name : String) (thread : Nat)
  deriving DecidableEq, Repr

/-- The override as an expression, with the accessor under its name. -/
def Override.toExpr (accessor : String) : Override → Formula.Expr
  | label text => .text (Formula.quoted text)
  | constant value => value.toExpr
  | getter g => .raw (accessor ++ "." ++ g.method ++ "()")
  | event name thread =>
    .raw (accessor ++ ".get_event(" ++ Formula.quoted name ++ ", " ++ toString thread ++ ")")

/-- What a session works on. -/
structure Source where
  /-- The workbook. -/
  workbook : Workbook
  /-- Its layout. -/
  layout : Layout

namespace Source

/-- The event at a position of the data sheet `sheet`, if the event table covers it. -/
def eventAt (src : Source) (cell : Address) : Except ReferenceError (Option Override) :=
  match src.layout.eventTable with
  | none => .ok none
  | some table =>
    if table.contains cell.position then
      let header : Address := ⟨cell.sheet, table.headerIndex, cell.col⟩
      let name := (src.workbook.value header).display
      if (Text.trim name).isEmpty then .error ⟨cell.text, .emptyHeader header⟩
      else .ok (some (.event name (table.thread cell.row)))
    else .ok none

/-- The override of a cell: on the label sheet its label, and on the data sheet, in this order, its
value if it is a constant, the value that the accessor has for it, or its event. -/
def overrideOf (src : Source) (cell : Address) : Except ReferenceError (Option Override) :=
  if Text.sameFold cell.sheet src.layout.labelSheet then
    .ok (some (.label (src.workbook.value cell).display))
  else if !Text.sameFold cell.sheet src.layout.dataSheet then .ok none
  else if src.layout.constants.any fun c => coordinate? c == some cell.position then
    .ok (some (.constant (src.workbook.value cell)))
  else match src.layout.accessors.find? fun (c, _) => coordinate? c == some cell.position with
    | some (_, g) => .ok (some (.getter g))
    | none => src.eventAt cell

end Source

end ReportCompiler
