import ReportCompiler.Formula.Expr
import ReportCompiler.Formula.Fault

/-!
# Function calls

How the arguments of a call become one expression.  An argument may be empty; a range argument is a
list of members and is dissolved into the arguments.
-/

namespace ReportCompiler.Formula

/-- The members of a list argument, or the argument itself. -/
def argumentItems : Expr → List Expr
  | .list items => items
  | e => [e]

/-- The choice between two values.  An empty value stands for zero, and a value that is left out for
false. -/
def conditionalOf (args : List (Option Expr)) : Except Malformed Expr :=
  match args with
  | [cond, onTrue] =>
    match cond with
    | none => .error .ifConditionEmpty
    | some cond => .ok (.conditional cond (onTrue.getD (.number "0")) (.bool false))
  | [cond, onTrue, onFalse] =>
    match cond with
    | none => .error .ifConditionEmpty
    | some cond =>
      .ok (.conditional cond (onTrue.getD (.number "0")) (onFalse.getD (.number "0")))
  | _ => .error (.ifArity args.length)

/-- The call of a function with arguments, some of them empty.  Only a choice minds empty arguments.
-/
def Function.apply (f : Function) (args : List (Option Expr)) : Except Malformed Expr :=
  if f = .if then conditionalOf args
  else
    match (args.filterMap id).flatMap argumentItems with
    | [] => .error (.noArguments f)
    | items => .ok (.call f items)

end ReportCompiler.Formula
