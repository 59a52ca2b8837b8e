import ReportCompiler.Command.Line
import ReportCompiler.Package.Decode

/-!
# The command line program

The files that a request names are read into a tree, the command works on the tree, and what it
changed is written back. The file of a workbook is the description of its package that
`Package.parse?` reads.

Directories are not listed: of the reports in a directory those from `pa0.xml` to `pa99.xml` are
looked for.  Nor are other programs started, so every interpreter counts as missing.
-/

namespace ReportCompiler.Main

/-- The error code of the operating system for a directory that is read like a file. -/
def readOfDirectory : UInt32 :=
  21

/-- What the bytes of a workbook are in a tree: its package, if they describe one. -/
def workbookNode (bytes : List UInt8) : Files.Node :=
  match (Text.decode? bytes).bind Package.parse? with
  | some p => .package p
  | none => .data bytes

/-- What a path leads to, with `node` for the bytes of a file. -/
def readNode? (node : List UInt8 → Files.Node) (path : String) : IO (Option Files.Node) := do
  match ← (IO.FS.readBinFile path).toBaseIO with
  | .ok bytes => return some (node bytes.toList)
  | .error (.inappropriateType _ code _) =>
    return if code = readOfDirectory then some .directory else none
  | .error _ => return none

/-- The tree with what a path leads to. -/
def readInto (node : List UInt8 → Files.Node) (files : Files.Tree) (path : String) :
    IO Files.Tree := do
  match ← readNode? node path with
  | some node => return files.add path node
  | none => return files

/-- The paths of the reports that are looked for in a directory. -/
def reportPaths (dir : String) : List String :=
  (List.range 100).map fun n => Files.join dir ("pa" ++ toString n ++ ".xml")

/-- The files that a request may use. -/
def readFiles (host : Host) (request : Request) : IO Files.Tree := do
  let named := request.paths host
  let directories := (named.map Files.parent).filter fun dir => !dir.isEmpty
  let reports := (request.reports? host).toList.flatMap reportPaths
  let plain ← (directories ++ named ++ reports).foldlM (readInto .data) {}
  (request.workbook? host).toList.foldlM (readInto workbookNode) plain

/-- The runs of characters in a text that may be names of variables. -/
def variableNames (s : String) : List String :=
  let spaced := s.map fun c => if Files.isVariableChar c then c else ' '
  (spaced.splitOn " ").filter fun name => !name.isEmpty

/-- The variables of the environment that arguments may mean. -/
def readEnvironment (arguments : List String) : IO Files.Environment := do
  let names := "HOME" :: "SHEETC_PYTHON" :: arguments.flatMap variableNames
  names.eraseDups.filterMapM fun name => do
    return (← IO.getEnv name).map fun value => (name, value)

/-- The input, if a request takes it. -/
def readInput : Request → IO (List UInt8)
  | .flatten { infile := none, .. } => do return (← (← IO.getStdin).readToEnd).toUTF8.toList
  | _ => return []

/-- Tells why a command failed. -/
def tellFailure (f : Failure) : IO Unit := do
  unless f.message.isEmpty do IO.eprintln ("error: " ++ f.message)
  if let some hint := f.hint then IO.eprintln ("hint:  " ++ hint)

/-- Does what the user asks for and tells how it ended. -/
def perform (host : Host) (request : Request) : IO ExitCode := do
  let files ← readFiles host request
  let (result, console) := (request.run host).run { files }
  IO.print console.stdout
  IO.eprint console.stderr
  for (path, bytes) in Files.Tree.changes files console.files do
    IO.FS.writeBinFile path ⟨bytes.toArray⟩
  match result with
  | .ok () => return .success
  | .error f =>
    tellFailure f
    return f.code

/-- Runs the command of a command line. -/
def runLine (arguments : List String) : IO ExitCode := do
  let host : Host :=
    { env := ← readEnvironment arguments, stdin := [], interpreter? := fun _ => none }
  match Request.parse host arguments with
  | .ok request => perform { host with stdin := ← readInput request } request
  | .error f =>
    tellFailure f
    return f.code

end ReportCompiler.Main

/-- Compiles workbooks and prints tables of results, as the command line asks. -/
def main (arguments : List String) : IO UInt32 := do
  return (← ReportCompiler.Main.runLine arguments).number.toUInt32
