import ReportCompiler.Command.Outcome
import ReportCompiler.Files.Expand
import ReportCompiler.Files.Tree

/-!
# Commands

A command reads and writes files, prints to two streams and may fail.  What it printed and wrote
before it failed stays.

* `Host` - what a command finds: variables, its input and interpreters of programs.
* `Console` - what a command leaves behind.
* `CommandM` - a piece of work of a command.
-/

namespace ReportCompiler

/-- How a program ended. -/
structure RunResult where
  /-- Its exit status. -/
  status : Nat
  /-- What it printed. -/
  stdout : List UInt8
  /-- What it complained about. -/
  stderr : List UInt8
  deriving DecidableEq, Repr

/-- Runs the program at a path on the reports at another. -/
abbrev Interpreter := (files : Files.Tree) → (program report : String) → RunResult

/-- What a command finds. -/
structure Host where
  /-- The variables of the environment. -/
  env : Files.Environment
  /-- The input. -/
  stdin : List UInt8
  /-- The interpreter of a name. -/
  interpreter? : String → Option Interpreter

/-- What a command leaves behind. -/
structure Console where
  /-- What it printed. -/
  stdout : String := ""
  /-- What it told the user besides. -/
  stderr : String := ""
  /-- The files. -/
  files : Files.Tree := {}

/-- A piece of work of a command. -/
abbrev CommandM := ExceptT Failure (StateM Console)

/-- Prints a text. -/
def printText (s : String) : CommandM Unit :=
  modify fun c => { c with stdout := c.stdout ++ s }

/-- Tells the user a line. -/
def tellLine (s : String) : CommandM Unit :=
  modify fun c => { c with stderr := c.stderr ++ s ++ "\n" }

/-- The failure of wrong arguments. -/
def Failure.usage (message : String) : Failure :=
  { code := .usage, message }

/-- The failure of a file that cannot be read or written. -/
def Failure.file (message : String) : Failure :=
  { code := .file, message }

/-- The failure of a program, or of its input. -/
def Failure.run (message : String) : Failure :=
  { code := .run, message }

/-- A path as the user gave it, with variables and tilde replaced. -/
def Host.expand (host : Host) (path : String) : String :=
  Files.expandPath host.env path

end ReportCompiler
