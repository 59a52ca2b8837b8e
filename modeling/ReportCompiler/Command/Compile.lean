import ReportCompiler.Command.Run
import ReportCompiler.Json.Printer
import ReportCompiler.Layout.Analysis
import ReportCompiler.Layout.Decode
import ReportCompiler.Package.Load
import ReportCompiler.Program.Assemble

/-!
# Compiling a workbook

* `CompileArgs` - what the user asks for.
* `loadLayout`, `loadWorkbook` - the two inputs.
* `compileCommand` - compiles a workbook, writes the program, and maybe runs it.
-/

namespace ReportCompiler

/-- What the user asks for. -/
structure CompileArgs where
  /-- The path of the workbook. -/
  workbook : String
  /-- The path of the program; a dash means to print it. -/
  output : Option String := none
  /-- The path of the layout. -/
  layout : Option String := none
  /-- The name of the accessor. -/
  accessor : Option String := none
  /-- The directory of reports to run the program on. -/
  run : Option String := none
  /-- The name of the interpreter. -/
  interpreter : String := "python3"
  /-- Print a summary for programs. -/
  json : Bool := false
  /-- Tell neither warnings nor a summary. -/
  quiet : Bool := false
  deriving Repr

/-- The layout, from a file or the one that is used when none is given, with the accessor that the
user asks for. -/
def loadLayout (host : Host) (path accessor : Option String) : CommandM Layout := do
  let layout ← match path with
    | none => pure Layout.analysis
    | some path =>
      let path := host.expand path
      match (← get).files.readText path with
      | .error why => throw (.file ("Failed to read layout '" ++ path ++ "': " ++ why.message))
      | .ok text =>
        match Layout.parse text with
        | .ok l => pure l
        | .error why => throw (.ofError (.layout why))
  match accessor with
  | none => return layout
  | some name =>
    match layout.withAccessor name with
    | .ok l => return l
    | .error why => throw (.ofError (.layout why))

/-- The workbook at a path, and what was loaded of it. -/
def loadFile (files : Files.Tree) (path : String) : Except LoadFault Loading :=
  match files.locate path with
  | .ok (_, .package p) => if opensPackage path then p.load (hasMerges path) else .error .unopened
  | _ => .error .unopened

/-- The workbook at a path. -/
def loadWorkbook (path : String) : CommandM Workbook := do
  match loadFile (← get).files path with
  | .ok loading => return loading.workbook
  | .error why => throw (.file (why.message path))

/-- The path means that the program is printed. -/
def isDash (path : String) : Bool :=
  match Files.Tree.partsOf path with
  | first :: rest => first == "-" && rest.all fun part => part == "" || part == "."
  | [] => false

/-- Where the program of a workbook is written: beside it. -/
def defaultOutput (workbook : String) : String :=
  Files.withFileName workbook ((Files.fileStem? workbook).getD "report" ++ ".out.py")

/-- What was compiled, for programs. -/
def summaryValue (workbook output : String) (c : Compiled) : Json.Value :=
  .object [
    ("workbook", .text workbook), ("output", .text output),
    ("instructions", .integer c.instructionCount), ("outputs", .integer c.outputCount),
    ("warnings", .array (c.warnings.map fun w => .text w.message))]

/-- Writes the program. -/
def writeProgram (path program : String) : CommandM Unit := do
  match (← get).files.write path (Text.encode program) with
  | .ok files => modify fun c => { c with files }
  | .error why => throw (.file ("Failed to write '" ++ path ++ "': " ++ why.message))

/-- Compiles the workbook. -/
def compileWorkbook (path : String) (layout : Layout) : CommandM Compiled := do
  let workbook ← loadWorkbook path
  match Source.compile { workbook, layout } ((Files.fileName? path).getD path) with
  | .ok c => return c
  | .error why => throw (.ofError why)

/-- Tells what was compiled. -/
def tellSummary (args : CompileArgs) (workbook output : String) (c : Compiled) : CommandM Unit := do
  if args.json then
    printText (Json.pretty (summaryValue workbook output c) ++ "\n")
  else if !args.quiet then
    tellLine ("wrote " ++ output ++ ": " ++ toString c.instructionCount ++ " instructions, " ++
      toString c.outputCount ++ " outputs")

/-- Runs the program on the reports that the user names. -/
def runOnReports (host : Host) (args : CompileArgs) (program : String) (expected : Nat) :
    CommandM Unit := do
  match args.run with
  | none => return
  | some dir =>
    let dir := host.expand dir
    checkReports dir expected
    let interpreter ← findInterpreter host args.interpreter
    printText (← runProgram interpreter program dir)

/-- Compiles a workbook, writes the program, and runs it if the user asks for that. -/
def compileCommand (host : Host) (args : CompileArgs) : CommandM Unit := do
  let workbook := host.expand args.workbook
  let toStdout := args.output.any isDash
  if toStdout && args.run.isSome then
    throw (.usage "--run needs the program written to a file, not stdout")
  if toStdout && args.json then
    throw (.usage "--json cannot be combined with -o -")
  let layout ← loadLayout host args.layout args.accessor
  let compiled ← compileWorkbook workbook layout
  if !args.quiet && !args.json then
    compiled.warnings.forM fun w => tellLine ("warning: " ++ w.message)
  if toStdout then
    printText compiled.program
  else
    let output := match args.output with
      | some path => host.expand path
      | none => defaultOutput workbook
    writeProgram output compiled.program
    tellSummary args workbook output compiled
    runOnReports host args output layout.expectedReportFiles

end ReportCompiler
