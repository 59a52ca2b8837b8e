import ReportCompiler.Command.Basic
import ReportCompiler.Files.Glob
import ReportCompiler.Text.Blank

/-!
# Running programs

* `countReports`, `checkReports` - whether a directory holds the reports of one profiler run.
* `findInterpreter`, `runProgram` - a program run on such a directory.
-/

namespace ReportCompiler

/-- The number of reports in a directory. -/
def countReports (dir : String) : CommandM Nat := do
  let files := (← get).files
  if !files.isDirectory dir then throw (.file ("'" ++ dir ++ "' is not a directory"))
  match files.globCount? (Files.join dir "pa*.xml") with
  | some n => return n
  | none =>
    throw (.usage ("bad report directory '" ++ dir ++ "': its name is not a pattern of paths"))

/-- Checks that a directory holds as many reports as a program expects. -/
def checkReports (dir : String) (expected : Nat) : CommandM Unit := do
  let found ← countReports dir
  if found ≠ expected then
    throw { code := .run
            message := "expected " ++ toString expected ++ " pa*.xml files in '" ++ dir ++ "', found " ++
              toString found
            hint := some "point --run at the directory holding one profiler run" }

/-- Prints the number of reports in a directory, and checks it. -/
def countReportsCommand (dir : String) (expected : Nat) : CommandM Unit := do
  printText (toString (← countReports dir) ++ "\n")
  checkReports dir expected

/-- The interpreter of a name. -/
def findInterpreter (host : Host) (name : String) : CommandM Interpreter :=
  match host.interpreter? name with
  | some i => return i
  | none =>
    throw { code := .run
            message := "interpreter '" ++ name ++ "' not found"
            hint := some "pass --python or set SHEETC_PYTHON" }

/-- The lines of a text. -/
def splitLines : List Char → List (List Char)
  | [] => [[]]
  | c :: rest =>
    if c = '\n' then [] :: splitLines rest
    else match splitLines rest with
      | line :: lines => (c :: line) :: lines
      | [] => [[c]]

/-- The lines of a text that are not blank, without the blanks around them. -/
def solidLines (s : String) : List String :=
  (((splitLines s.toList).map Text.trimChars).filter fun line => !line.isEmpty).map String.ofList

/-- What a program prints when it is run on a report. -/
def runProgram (interpreter : Interpreter) (program report : String) : CommandM String := do
  let result := interpreter (← get).files program report
  if result.status ≠ 0 then
    let last := (solidLines (Text.decodeLossy result.stderr)).getLast?.getD ""
    throw (.run ("'" ++ program ++ "' failed on '" ++ report ++ "' (exit status: " ++
      toString result.status ++ "): " ++ last))
  match Text.decode? result.stdout with
  | some s => return s
  | none => throw (.run ("'" ++ program ++ "' printed non-UTF-8 output"))

end ReportCompiler
