import ReportCompiler.Error

/-!
# How commands end

A command succeeds or fails, and a failure has an exit code that scripts rely on, a message and
maybe a hint.

* `ExitCode` - the causes that exit codes tell apart, with `ExitCode.number`.
* `Failure` - a failed command.
* `Error.exitCode`, `Failure.ofError` - the failure of a workbook that does not become a program.
-/

namespace ReportCompiler

/-- What an exit code tells. -/
inductive ExitCode
  /-- The command was done. -/
  | success
  /-- The command failed for no reason that has a code of its own. -/
  | unspecified
  /-- The arguments or the layout are wrong. -/
  | usage
  /-- A file cannot be read or written. -/
  | file
  /-- A reference names nothing. -/
  | reference
  /-- A formula is not in the supported language. -/
  | formula
  /-- Cells refer to each other in a circle. -/
  | cycle
  /-- A promise between parts of the compiler is broken. -/
  | invariant
  /-- A program failed, or its input is wrong. -/
  | run
  deriving DecidableEq, Repr

/-- The number of an exit code. -/
def ExitCode.number : ExitCode → Nat
  | success => 0
  | unspecified => 1
  | usage => 2
  | file => 3
  | reference => 4
  | formula => 5
  | cycle => 6
  | invariant => 7
  | run => 8

/-- A failed command. -/
structure Failure where
  /-- Its exit code. -/
  code : ExitCode
  /-- What went wrong. -/
  message : String
  /-- What might help. -/
  hint : Option String := none
  deriving DecidableEq, Repr

/-- The exit code of an error. -/
def Error.exitCode : Error → ExitCode
  | resolution _ => .reference
  | formula _ _ => .formula
  | cycle _ => .cycle
  | breach _ => .invariant
  | layout _ => .usage

/-- What might help against an error. -/
def Error.hint? : Error → Option String
  | formula _ (.unsupported _) => some "run `sheetc list-functions` for the supported functions"
  | cycle _ => some "break the loop in the workbook, then retry"
  | layout _ => some "check the layout file passed with --layout"
  | _ => none

/-- The failure of a workbook that does not become a program. -/
def Failure.ofError (e : Error) : Failure :=
  ⟨e.exitCode, e.message, e.hint?⟩

end ReportCompiler
