import ReportCompiler.Text.Ascii

/-!
# Functions

The closed set of functions that formulas may call.

* `Function` - the functions.
* `Function.name`, `Function.summary` - the name in formulas and a sketch of the call in the
  program.
* `Function.ofName?` - looks a name up, with or without the bracket that an opener keeps.
* `Function.callText` - the call in the program, from the texts of its arguments.
-/

namespace ReportCompiler.Formula

/-- A function that formulas may call. -/
inductive Function
  /-- The choice between two values. -/
  | if
  /-- Some argument is true. -/
  | or
  /-- The number of arguments that are not empty. -/
  | count
  /-- The sum of the arguments that are not empty. -/
  | sum
  /-- The mean of the arguments that are not empty. -/
  | average
  /-- The lower guard of a limit. -/
  | guardLimitLower
  /-- The upper guard of a limit. -/
  | guardLimitUpper
  deriving DecidableEq, Repr, Inhabited

namespace Function

/-- All functions, in the order in which they are listed. -/
def all : List Function :=
  [.if, .or, .count, .sum, .average, .guardLimitLower, .guardLimitUpper]

/-- The name in formulas. -/
def name : Function → String
  | .if => "IF"
  | .or => "OR"
  | .count => "COUNT"
  | .sum => "SUM"
  | .average => "AVERAGE"
  | .guardLimitLower => "GuardLimitLower"
  | .guardLimitUpper => "GuardLimitUpper"

/-- A sketch of the call in the program. -/
def summary : Function → String
  | .if => "(t) if (cond) else (f)"
  | .or => "any([a, b, ...])"
  | .count => "count_non_empty([...])"
  | .sum => "(sum_skip_empty([...]))"
  | .average => "(sum_skip_empty([...]) / count_non_empty([...]))"
  | .guardLimitLower => "vba_guard_limit_lower(...)"
  | .guardLimitUpper => "vba_guard_limit_upper(...)"

/-- A name without the bracket that it may end in. -/
def dropBracket (s : String) : String :=
  match s.toList.reverse with
  | '(' :: rest => String.ofList rest.reverse
  | _ => s

/-- The function of a name, in any case of ASCII letters and with or without a bracket at the end.
-/
def ofName? (s : String) : Option Function :=
  all.find? fun f => Text.sameFold f.name (dropBracket s)

/-- Texts with a comma and a space between them. -/
def joined (parts : List String) : String :=
  String.intercalate ", " parts

/-- A value for each outcome of a condition, in the program's words. -/
def conditionalText (cond onTrue onFalse : String) : String :=
  "(" ++ onTrue ++ ") if (" ++ cond ++ ") else (" ++ onFalse ++ ")"

/-- The call in the program, from the texts of its arguments.  A choice takes false for arguments
that are missing. -/
def callText (f : Function) (args : List String) : String :=
  match f with
  | .if => conditionalText (args.getD 0 "False") (args.getD 1 "False") (args.getD 2 "False")
  | .or => "any([" ++ joined args ++ "])"
  | .count => "count_non_empty([" ++ joined args ++ "])"
  | .sum => "(sum_skip_empty([" ++ joined args ++ "]))"
  | .average =>
    "(sum_skip_empty([" ++ joined args ++ "]) / count_non_empty([" ++ joined args ++ "]))"
  | .guardLimitLower => "vba_guard_limit_lower(" ++ joined args ++ ")"
  | .guardLimitUpper => "vba_guard_limit_upper(" ++ joined args ++ ")"

theorem ofName?_name (f : Function) : ofName? f.name = some f := by
  cases f <;> decide

end Function

end ReportCompiler.Formula
