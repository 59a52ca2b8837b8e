import ReportCompiler.Cell.Value

/-!
# Stored formulas

Packages store formulas in more than one dialect.  The open dialect puts a mark in front of
functions and references and separates arguments by semicolons.

* `plainChars` - a formula of the open dialect without its marks, and with commas.
* `storedFormula` - a stored formula as a cell holds it.
-/

namespace ReportCompiler.Package

/-- Three characters are a mark of the open dialect. -/
def isMark (a b c : Char) : Bool :=
  a.toLower = 'o' && b.toLower = 'f' && c = ':'

/-- A character outside marks.  Semicolons outside texts are commas. -/
def plainChar (quoted : Bool) (c : Char) : Char :=
  if c = ';' && !quoted then ',' else c

/-- A formula of the open dialect without its marks, and with commas.  What stands between double
quotes stays as it is; `quoted` says that the formula goes on between them. -/
def plainChars (quoted : Bool) : List Char → List Char
  | [] => []
  | a :: b :: c :: rest =>
    if !quoted && isMark a b c then plainChars quoted rest
    else plainChar quoted a :: plainChars (quoted ^^ (a == '"')) (b :: c :: rest)
  | c :: rest => plainChar quoted c :: plainChars (quoted ^^ (c == '"')) rest

/-- A formula with an equals sign in front and without the marks of the open dialect.  It is in that
dialect if it begins with a mark whose letters have the same case. -/
def plainFormula (formula : String) : String :=
  match formula.toList with
  | '=' :: 'o' :: 'f' :: ':' :: rest => String.ofList ('=' :: plainChars false rest)
  | '=' :: 'O' :: 'F' :: ':' :: rest => String.ofList ('=' :: plainChars false rest)
  | _ => formula

/-- A stored formula as a cell holds it. -/
def storedFormula (stored : String) : String :=
  plainFormula (withEquals stored)

end ReportCompiler.Package
