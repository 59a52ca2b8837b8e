import ReportCompiler.Command.Run
import ReportCompiler.Document.Table

/-!
# Flattening results

* `benchmarkName` - the label of a run, from the name of its directory.
* `flattenCommand` - runs a program on several directories and prints a table with one row for each.
-/

namespace ReportCompiler

/-- The label of a run: the name of its directory up to the first point. -/
def benchmarkName (dir : String) : String :=
  let name := (Files.fileName? (Text.trim dir)).getD ""
  String.ofList (name.toList.takeWhile (· != '.'))

/-- What the user asks for. -/
structure FlattenArgs where
  /-- The path of the program. -/
  program : String
  /-- The path of a list of directories; without it the list is the input. -/
  infile : Option String := none
  /-- The name of the interpreter. -/
  interpreter : String := "python3"
  deriving Repr

/-- The bytes of the list of directories. -/
def readList (host : Host) (infile : Option String) : CommandM (List UInt8) := do
  match infile with
  | none => return host.stdin
  | some path =>
    let path := host.expand path
    match (← get).files.readBytes path with
    | .ok bytes => return bytes
    | .error .missing =>
      throw (.file ("Failed to open '" ++ path ++ "': " ++ Files.FileFault.missing.message))
    | .error .notDirectory =>
      throw (.file ("Failed to open '" ++ path ++ "': " ++ Files.FileFault.notDirectory.message))
    | .error why => throw (.file ("Failed to read directory list: " ++ why.message))

/-- The directories of a list, which are its lines that are not blank. -/
def readDirectories (host : Host) (infile : Option String) : CommandM (List String) := do
  match Text.decode? (← readList host infile) with
  | some s => return solidLines s
  | none => throw (.file ("Failed to read directory list: " ++ Files.FileFault.notText.message))

/-- Runs the program on a directory and prints its row, with the header if it is the first. -/
def flattenOne (host : Host) (interpreter : Interpreter) (program : String) (isFirst : Bool)
    (dir : String) : CommandM Unit := do
  let printed ← runProgram interpreter program (host.expand dir)
  match parseDocument printed with
  | .ok document => printText (documentRows isFirst (benchmarkName dir) document)
  | .error why => throw (.run (dir ++ ": " ++ why.message))

/-- Runs a program on several directories and prints a table. -/
def flattenCommand (host : Host) (args : FlattenArgs) : CommandM Unit := do
  let program := host.expand args.program
  if !(← get).files.isFile program then
    throw { code := .file
            message := "program '" ++ program ++ "' not found"
            hint := some "generate it with `sheetc transpile`" }
  match ← readDirectories host args.infile with
  | [] => throw (.usage "no report directories given")
  | first :: rest =>
    let interpreter ← findInterpreter host args.interpreter
    flattenOne host interpreter program true first
    rest.forM (flattenOne host interpreter program false)

end ReportCompiler
