import ReportCompiler.Command.Basic

/-!
# Listings

* `tokensCommand` - the tokens of a formula, one on each line.
* `functionsCommand` - the functions of the formula language, with what they become.
-/

namespace ReportCompiler

open Formula

/-- Prints the tokens of a formula. -/
def tokensCommand (formula : String) : CommandM Unit :=
  match tokenize (withEquals formula) with
  | .error why => throw (.ofError (.formula none (.unsplit why)))
  | .ok ts => ts.forM fun t => printText (t.shown ++ "\n")

/-- A text with blanks behind it, up to a width. -/
def padded (width : Nat) (s : String) : String :=
  s ++ String.ofList (List.replicate (width - s.length) ' ')

/-- Prints the functions. -/
def functionsCommand : CommandM Unit :=
  let width := (Function.all.map fun f => f.name.length).foldl max 0
  Function.all.forM fun f => printText (padded width f.name ++ "  " ++ f.summary ++ "\n")

end ReportCompiler
