import ReportCompiler.Program.Output
import ReportCompiler.Program.Template

/-!
# Programs

A program is the fixed opening, the instructions in order, the entries of the result and the line
that prints it.

* `ProgramOptions` - what fills the blanks of the opening.
* `assemble` - the text of a program.
* `Source.compile` - the program of a workbook.
-/

namespace ReportCompiler

/-- What fills the blanks of the opening. -/
structure ProgramOptions where
  /-- The name of the accessor of the profiler data. -/
  accessor : String := "fapp_xml"
  /-- The number of report files expected. -/
  expectedReportFiles : Nat := 17
  /-- The region measured, unless the program is told otherwise. -/
  region : String := "kernel"
  /-- The name of the workbook. -/
  source : String := "workbook"
  deriving DecidableEq, Repr

/-- The options of a layout, for the workbook named `source`. -/
def Layout.programOptions (l : Layout) (source : String) : ProgramOptions :=
  { accessor := l.accessor, expectedReportFiles := l.expectedReportFiles, source }

/-- A character as it may stand in comments and between double quotes. -/
def harmless (c : Char) : Char :=
  if c = '"' || c = '\\' || Text.isControl c then '_' else c

/-- The opening with its blanks filled in, one blank after the other. -/
def opening (o : ProgramOptions) : List Char :=
  [(placeholder "SOURCE", o.source.toList.map harmless),
   (placeholder "EXPECTED_REPORT_FILES", Nat.toDigits 10 o.expectedReportFiles),
   (placeholder "REGION", o.region.toList.map harmless),
   (placeholder "ACCESSOR", o.accessor.toList)].foldl
    (fun text (pattern, replacement) => replaceAll pattern replacement text)
    (unlines openingLines)

/-- The text of a program. -/
def assemble (instructions : List Instruction) (outputs : List Output) (o : ProgramOptions) :
    String :=
  String.ofList <| opening o ++
    unlines (instructions.map Instruction.render ++ ["", "results = \x7b\x7d"] ++
      outputs.map Output.render ++ ["", "print(json.dumps(results, indent=2))"])

/-- A workbook as a program. -/
structure Compiled where
  /-- The text of the program. -/
  program : String
  /-- The number of instructions. -/
  instructionCount : Nat
  /-- The number of entries of the result. -/
  outputCount : Nat
  /-- What is worth telling. -/
  warnings : List Warning
  deriving Repr

/-- The program of a workbook that is named `name`. -/
def Source.compile (src : Source) (name : String) : Except Error Compiled :=
  match src.outputs.run {} with
  | (.error why, _) => .error why
  | (.ok outputs, s) =>
    .ok {
      program := assemble s.instructions.toList outputs (src.layout.programOptions name)
      instructionCount := s.instructions.size
      outputCount := outputs.length
      warnings := s.warnings.toList }

end ReportCompiler
