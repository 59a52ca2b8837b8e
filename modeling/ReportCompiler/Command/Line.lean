import ReportCompiler.Command.Compile
import ReportCompiler.Command.Flatten
import ReportCompiler.Command.Listing

/-!
# Command lines

A command line names a command, then its options and operands in any order.  An option that takes a
value takes the next argument, or what follows an equals sign; after two dashes alone everything is
an operand.

* `Grammar`, `Arguments` - which options a command has, and what was found of them.
* `Request` - what the user asks for, with `Request.parse`, `Request.run` and `Request.paths`.
-/

namespace ReportCompiler

/-- The options of a command. -/
structure Grammar where
  /-- The options that take a value, by each of their spellings and the name that they mean. -/
  valued : List (String × String) := []
  /-- The options that take none. -/
  flags : List (String × String) := []
  deriving Repr

/-- What stands on a command line. -/
structure Arguments where
  /-- The values of options, by name. -/
  values : List (String × String) := []
  /-- The options without a value, by name. -/
  flags : List String := []
  /-- Everything else, in order. -/
  operands : List String := []
  deriving DecidableEq, Repr

/-- The spelling of an option and the value behind an equals sign. -/
def splitEquals (argument : String) : Option (String × String) :=
  match argument.toList.dropWhile (· != '=') with
  | _ :: value =>
    some (String.ofList (argument.toList.takeWhile (· != '=')), String.ofList value)
  | [] => none

/-- An argument that is spelled like an option.  A dash alone is an operand. -/
def looksLikeOption (argument : String) : Bool :=
  argument.toList.head? = some '-' && argument != "-"

namespace Grammar

/-- What an argument that holds the spelling and the value of an option means. -/
def joined? (g : Grammar) (argument : String) : Option (String × String) :=
  (splitEquals argument).bind fun (spelling, value) =>
    (g.valued.lookup spelling).map fun name => (name, value)

/-- One more argument that takes nothing from the ones behind it. -/
def single (g : Grammar) (argument : String) (found : Arguments) : Except Failure Arguments :=
  match g.flags.lookup argument, g.joined? argument with
  | some name, _ => .ok { found with flags := name :: found.flags }
  | none, some pair => .ok { found with values := pair :: found.values }
  | none, none =>
    if looksLikeOption argument then .error (.usage ("unexpected argument '" ++ argument ++ "'"))
    else .ok { found with operands := argument :: found.operands }

/-- What stands on a command line. -/
def read (g : Grammar) : List String → Except Failure Arguments
  | [] => .ok {}
  | "--" :: rest => .ok { operands := rest }
  | [argument] =>
    if (g.valued.lookup argument).isSome then
      .error (.usage ("a value is required for '" ++ argument ++ "'"))
    else g.single argument {}
  | argument :: next :: rest =>
    match g.valued.lookup argument with
    | some name => (g.read rest).map fun found => { found with values := (name, next) :: found.values }
    | none => (g.read (next :: rest)).bind (g.single argument)

end Grammar

/-- What the user asks for. -/
inductive Request
  /-- Compile a workbook. -/
  | compile (args : CompileArgs)
  /-- Print the results of runs as a table. -/
  | flatten (args : FlattenArgs)
  /-- Print the tokens of a formula. -/
  | tokens (formula : String)
  /-- Print the functions. -/
  | functions
  deriving Repr

namespace Request

/-- The options of compiling. -/
def compileGrammar : Grammar where
  valued := [("-o", "output"), ("--output", "output"), ("--layout", "layout"),
    ("--accessor", "accessor"), ("--run", "run"), ("--python", "python")]
  flags := [("--json", "json"), ("-q", "quiet"), ("--quiet", "quiet")]

/-- The options of flattening. -/
def flattenGrammar : Grammar where
  valued := [("--program", "program"), ("--infile", "infile"), ("--python", "python")]

/-- The interpreter that the user names, or else the environment. -/
def interpreterOf (host : Host) (found : Arguments) : String :=
  ((found.values.lookup "python").or (host.env.lookup "SHEETC_PYTHON")).getD "python3"

/-- The failure of operands that a command cannot use. -/
def wrongOperands (usage : String) : Failure :=
  .usage ("usage: sheetc " ++ usage)

/-- The request to compile. -/
def parseCompile (host : Host) (arguments : List String) : Except Failure Request := do
  let found ← compileGrammar.read arguments
  match found.operands with
  | [workbook] =>
    return .compile {
      workbook
      output := found.values.lookup "output"
      layout := found.values.lookup "layout"
      accessor := found.values.lookup "accessor"
      run := found.values.lookup "run"
      interpreter := interpreterOf host found
      json := found.flags.contains "json"
      quiet := found.flags.contains "quiet" }
  | _ => throw (wrongOperands "transpile [OPTIONS] <WORKBOOK>")

/-- The request to flatten. -/
def parseFlatten (host : Host) (arguments : List String) : Except Failure Request := do
  let found ← flattenGrammar.read arguments
  match found.operands, found.values.lookup "program" with
  | [], some program =>
    return .flatten {
      program
      infile := found.values.lookup "infile"
      interpreter := interpreterOf host found }
  | _, _ => throw (wrongOperands "flatten [OPTIONS] --program <PROGRAM>")

/-- The request for tokens. -/
def parseTokens (arguments : List String) : Except Failure Request := do
  match (← ({} : Grammar).read arguments).operands with
  | [formula] => return .tokens formula
  | _ => throw (wrongOperands "tokens <FORMULA>")

/-- The request for functions. -/
def parseFunctions (arguments : List String) : Except Failure Request := do
  match (← ({} : Grammar).read arguments).operands with
  | [] => return .functions
  | _ => throw (wrongOperands "list-functions")

/-- What a command line asks for. -/
def parse (host : Host) : List String → Except Failure Request
  | "transpile" :: rest => parseCompile host rest
  | "flatten" :: rest => parseFlatten host rest
  | "tokens" :: rest => parseTokens rest
  | "list-functions" :: rest => parseFunctions rest
  | _ => .error (wrongOperands "<transpile|flatten|tokens|list-functions>")

/-- Does what the user asks for. -/
def run (host : Host) : Request → CommandM Unit
  | compile args => compileCommand host args
  | flatten args => flattenCommand host args
  | tokens formula => tokensCommand formula
  | functions => functionsCommand

/-- The paths that a request names, with variables and tilde replaced. -/
def paths (host : Host) : Request → List String
  | compile args =>
    let workbook := host.expand args.workbook
    workbook :: defaultOutput workbook ::
      ([args.output, args.layout, args.run].filterMap id).map host.expand
  | flatten args => host.expand args.program :: args.infile.toList.map host.expand
  | tokens _ => []
  | functions => []

/-- The path of the workbook that a request names. -/
def workbook? (host : Host) : Request → Option String
  | compile args => some (host.expand args.workbook)
  | _ => none

/-- The directory of reports that a request names. -/
def reports? (host : Host) : Request → Option String
  | compile args => args.run.map host.expand
  | _ => none

end Request

end ReportCompiler
