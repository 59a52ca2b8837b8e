import ReportCompiler.Formula.Parser
import ReportCompiler.Program.Override
import Std.Data.TreeMap

/-!
# Sessions

A session turns cells into instructions.  It follows references depth first, so that the instruction
of a cell comes after those of the cells that it refers to, and it remembers what it has done, so
that every cell has at most one instruction.

* `Instruction` - one line `name = expression`.
* `Session` - what a session remembers.
* `ensureWithin` - makes sure that a cell has an instruction; the first argument bounds how deeply
  cells may refer to each other.
* `Source.ensure`, `Source.ensureReference`, `Source.operand` - what a session can be asked for.

The bound is the number of formulas and one: cells that are being compiled are different from each
other, and all but the innermost have a formula.
-/

namespace ReportCompiler

open Formula

instance : Std.TransCmp Address.order :=
  inferInstanceAs (Std.TransCmp (compareLex _ (compareLex _ _)))

/-- One line of the program. -/
structure Instruction where
  /-- The variable that it binds. -/
  name : String
  /-- The value that it binds it to. -/
  expr : Expr
  deriving Repr, Inhabited

/-- The instruction as a line of text. -/
def Instruction.render (i : Instruction) : String :=
  i.name ++ " = " ++ i.expr.render

/-- How far a session is with a cell. -/
inductive Visit
  /-- The cell is being compiled. -/
  | inProgress
  /-- The cell has an instruction, which binds this name. -/
  | done (name : String)
  deriving DecidableEq, Repr

/-- What a session remembers. -/
structure Session where
  /-- How far it is with each cell. -/
  visits : Std.TreeMap Address Visit Address.order := ∅
  /-- The cell that has each variable name. -/
  owners : Std.TreeMap String Address := ∅
  /-- The instructions, in order. -/
  instructions : Array Instruction := #[]
  /-- The sheets of the formulas that are being compiled, the innermost first. -/
  scope : List String := []
  /-- The cells that are being compiled, the innermost first. -/
  chain : List Address := []
  /-- The warnings, in order. -/
  warnings : Array Warning := #[]

/-- A piece of work of a session.  What it remembers is kept also when the work fails. -/
abbrev SessionM := ExceptT Error (StateM Session)

namespace Session

/-- The circle that a cell which is being compiled closes: the cells from it on, and the cell again.
-/
def circle (s : Session) (cell : Address) : List Address :=
  s.chain.reverse.dropWhile (· != cell) ++ [cell]

/-- Another cell that has the variable name of this one. -/
def rival? (s : Session) (cell : Address) : Option Address :=
  match s.owners[cell.variableName]? with
  | some owner => if owner = cell then none else some owner
  | none => none

/-- The session when it begins with a cell: the name is taken before the references are followed. -/
def enter (s : Session) (cell : Address) (kind : CellKind) : Session :=
  { s with
    visits := s.visits.insert cell .inProgress
    owners := s.owners.insert cell.variableName cell
    chain := cell :: s.chain
    warnings := if kind = .merged then s.warnings.push (.mergedCell cell) else s.warnings }

/-- The session when the cell has its expression. -/
def finish (s : Session) (cell : Address) (e : Expr) : Session :=
  { s with
    visits := s.visits.insert cell (.done cell.variableName)
    instructions := s.instructions.push ⟨cell.variableName, e⟩
    chain := s.chain.tail }

/-- The session when the cell has failed: its name is free again. -/
def abandon (s : Session) (cell : Address) : Session :=
  { s with
    visits := s.visits.erase cell
    owners := s.owners.erase cell.variableName
    chain := s.chain.tail }

/-- The sheet that a reference without sheet is on. -/
def currentSheet (s : Session) (layout : Layout) : String :=
  s.scope.headD layout.defaultSheet

end Session

/-- A formula compiled with `resolve` answering for its references. -/
def compileFormula (resolve : String → SessionM Expr) (formula : String) : SessionM Expr :=
  match tokenize formula with
  | .error why => throw (.formula none (.unsplit why))
  | .ok ts => (parseFormula ts).run resolve fun why => throw (.formula none why)

/-- The formula of a cell compiled on the sheet of the cell. -/
def compileOnSheet (resolve : String → SessionM Expr) (cell : Address) (formula : String) :
    SessionM Expr := fun s =>
  let (result, s') := compileFormula resolve formula { s with scope := cell.sheet :: s.scope }
  (result.mapError (Error.inCell cell), { s' with scope := s'.scope.tail })

namespace Source

/-- The expression of a cell: its override, its formula or its value. -/
def exprOf (src : Source) (resolve : String → SessionM Expr) (cell : Address) : SessionM Expr :=
  match src.overrideOf cell with
  | .error why => throw (.resolution why)
  | .ok (some o) => return o.toExpr src.layout.accessor
  | .ok none =>
    match src.workbook.formula? cell with
    | some formula => compileOnSheet resolve cell formula
    | none => return (src.workbook.value cell).toExpr

/-- What stands for a cell that is referred to: its override, or the variable that `ensure` gives.
-/
def member (src : Source) (ensure : Address → SessionM String) (cell : Address) : SessionM Expr :=
  match src.overrideOf cell with
  | .error why => throw (.resolution why)
  | .ok (some o) => return o.toExpr src.layout.accessor
  | .ok none => return .var (← ensure cell)

/-- What stands for a reference: for a range, the list of what stands for its cells. -/
def operandWith (src : Source) (ensure : Address → SessionM String) (reference : String) :
    SessionM Expr := do
  match src.workbook.resolve ((← get).currentSheet src.layout) reference with
  | .error why => throw (.resolution why)
  | .ok (.cell a) => src.member ensure a
  | .ok (.range cells) => return .list (← cells.mapM (src.member ensure))

/-- Makes sure that a cell has an instruction, and gives its variable name.  At most `depth` cells
are compiled inside each other. -/
def ensureWithin (src : Source) : (depth : Nat) → Address → SessionM String
  | 0, cell => throw (.breach (.tooDeep cell))
  | depth + 1, cell => fun s =>
    match s.visits[cell]? with
    | some (.done name) => (.ok name, s)
    | some .inProgress => (.error (.cycle (s.circle cell)), s)
    | none =>
      match s.rival? cell with
      | some owner => (.error (.breach (.nameClash cell owner)), s)
      | none =>
        let resolve := src.operandWith (src.ensureWithin depth)
        match src.exprOf resolve cell (s.enter cell (src.workbook.kind cell)) with
        | (.ok e, s') => (.ok cell.variableName, s'.finish cell e)
        | (.error why, s') => (.error why, s'.abandon cell)

/-- The bound on how deeply cells refer to each other. -/
def depthBound (src : Source) : Nat :=
  src.workbook.formulaCount + 1

/-- The address with the title of its sheet as the workbook writes it. -/
def canonical (src : Source) (cell : Address) : Except ReferenceError Address :=
  match src.workbook.sheet? cell.sheet with
  | some sheet => .ok { cell with sheet := sheet.name }
  | none => .error ⟨cell.text, .noSheet cell.sheet⟩

/-- Makes sure that a cell has an instruction, and gives its variable name. -/
def ensure (src : Source) (cell : Address) : SessionM String := do
  let outermost := (← get).chain.isEmpty
  match src.canonical cell with
  | .error why => throw (.resolution why)
  | .ok cell =>
    fun s =>
      let (result, s') := src.ensureWithin src.depthBound cell s
      if outermost && !s'.scope.isEmpty then (.error (.breach (.scopeLeft cell s'.scope.reverse)), s')
      else (result, s')

/-- Makes sure that the cell of a reference has an instruction, and gives its variable name. -/
def ensureReference (src : Source) (reference : String) : SessionM String :=
  match src.workbook.resolveCell src.layout.defaultSheet reference with
  | .error why => throw (.resolution why)
  | .ok cell => src.ensure cell

/-- What stands for a reference. -/
def operand (src : Source) (reference : String) : SessionM Expr :=
  src.operandWith (src.ensureWithin src.depthBound) reference

/-- A formula outside any cell, compiled on the sheet of the report. -/
def formula (src : Source) (text : String) : SessionM Expr :=
  compileFormula src.operand text

end Source

end ReportCompiler
