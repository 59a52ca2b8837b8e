import ReportCompiler.Formula.Fault
import ReportCompiler.Layout.Basic
import ReportCompiler.Workbook.Reference

/-!
# Errors

Everything that keeps a workbook from becoming a program.

* `Error` - the causes, and `Error.message` their wording.
* `Error.inCell` - a fault of a formula, with the cell that it is in.
* `Warning` - what is worth telling and keeps nothing from being done.
-/

namespace ReportCompiler

/-- A broken promise between the parts of the compiler. -/
inductive Breach
  /-- Two cells have the same variable name. -/
  | nameClash (cell owner : Address)
  /-- Sheets were left on the stack after a cell. -/
  | scopeLeft (cell : Address) (scope : List String)
  /-- Cells referred to each other more deeply than there are formulas. -/
  | tooDeep (cell : Address)
  deriving DecidableEq, Repr

/-- The message of a breach. -/
def Breach.message : Breach → String
  | nameClash cell owner =>
    cell.text ++ " and " ++ owner.text ++ " both map to variable '" ++ cell.variableName ++ "'"
  | scopeLeft cell scope =>
    "worksheet stack not empty after translating " ++ cell.text ++ ": [" ++
      String.intercalate ", " (scope.map Text.escaped) ++ "]"
  | tooDeep cell => "references nested too deeply at " ++ cell.text

/-- Why a workbook does not become a program. -/
inductive Error
  /-- A reference names nothing. -/
  | resolution (why : ReferenceError)
  /-- A formula has a fault, in a cell if one is known. -/
  | formula (cell : Option Address) (why : Formula.Fault)
  /-- Cells refer to each other in a circle. -/
  | cycle (chain : List Address)
  /-- A promise between parts of the compiler is broken. -/
  | breach (why : Breach)
  /-- The layout cannot be used. -/
  | layout (why : LayoutFault)
  deriving DecidableEq, Repr

namespace Error

/-- The cell in front of a message about its formula. -/
def cellText : Option Address → String
  | some a => a.text ++ ": "
  | none => ""

/-- The message of an error. -/
def message : Error → String
  | resolution why => "cannot resolve '" ++ why.reference ++ "': " ++ why.reason.message
  | formula cell why => cellText cell ++ why.message
  | cycle chain => "circular reference: " ++ String.intercalate " -> " (chain.map Address.text)
  | breach why => "internal invariant violated: " ++ why.message
  | layout why => "layout config error: " ++ why.message

/-- The error with the cell that it arose in.  A cell that is already known stays: the innermost one
counts. -/
def inCell (a : Address) : Error → Error
  | formula none why => formula (some a) why
  | e => e

end Error

/-- What is worth telling about a workbook that becomes a program. -/
inductive Warning
  /-- A cell that is used lies under a merged region. -/
  | mergedCell (cell : Address)
  deriving DecidableEq, Repr

/-- The message of a warning. -/
def Warning.message : Warning → String
  | mergedCell cell => cell.text ++ " is covered by a merged region; using its own (empty) value"

end ReportCompiler
