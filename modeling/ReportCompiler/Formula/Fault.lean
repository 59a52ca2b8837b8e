import ReportCompiler.Formula.Function
import ReportCompiler.Formula.Scanner

/-!
# Faults of formulas

A formula fails to become an expression in one of three ways: its text has no tokens, its tokens
have no reading, or its reading uses something outside the supported part of the language.  Each
cause is a constructor, and the wording stands in one place.
-/

namespace ReportCompiler.Formula

/-- A part of the formula language that is not supported. -/
inductive Unsupported
  /-- An array constant. -/
  | arrayConstant (text : String)
  /-- An operator such as the union. -/
  | operator (text : String)
  /-- An error value. -/
  | errorValue (text : String)
  /-- The content of a cell without formula. -/
  | literalToken (text : String)
  /-- A range that is not an argument of a function. -/
  | rangeOutsideCall
  /-- An unknown sign in front of an operand. -/
  | sign (text : String)
  /-- An unknown function. -/
  | function (text : String)
  deriving DecidableEq, Repr

/-- What the construct is called. -/
def Unsupported.message : Unsupported → String
  | arrayConstant t => "array constant '" ++ t ++ "'"
  | operator t => "operator '" ++ t ++ "'"
  | errorValue t => "error literal '" ++ t ++ "'"
  | literalToken t => "literal token '" ++ t ++ "'"
  | rangeOutsideCall => "range used outside a function argument"
  | sign t => "prefix operator '" ++ t ++ "'"
  | function t => "function '" ++ t ++ "'"

/-- A token list that is no formula. -/
inductive Malformed
  /-- There is no token but blanks. -/
  | emptyFormula
  /-- A token that has no place where it stands. -/
  | unexpectedToken (token : Token)
  /-- Brackets around nothing. -/
  | emptyParentheses
  /-- Brackets that are not closed. -/
  | missingClose
  /-- An operand is missing in front of a token. -/
  | missingOperand (token : Token)
  /-- An operand is missing at the end. -/
  | unexpectedEnd
  /-- A call that is not closed. -/
  | missingCallClose (opener : String)
  /-- A choice with a wrong number of arguments. -/
  | ifArity (count : Nat)
  /-- A choice without condition. -/
  | ifConditionEmpty
  /-- A call without arguments. -/
  | noArguments (func : Function)
  deriving DecidableEq, Repr

/-- What is wrong with the token list. -/
def Malformed.message : Malformed → String
  | emptyFormula => "empty formula"
  | unexpectedToken t => "unexpected token " ++ t.shown
  | emptyParentheses => "empty parentheses"
  | missingClose => "missing ')'"
  | missingOperand t => "missing operand before " ++ t.shown
  | unexpectedEnd => "unexpected end of formula"
  | missingCallClose opener => "missing ')' for " ++ opener
  | ifArity n => "IF() takes 2 or 3 arguments, got " ++ toString n
  | ifConditionEmpty => "IF() condition is empty"
  | noArguments f => f.name ++ "() needs at least one argument"

/-- Why a formula does not become an expression. -/
inductive Fault
  /-- It uses something that is not supported. -/
  | unsupported (what : Unsupported)
  /-- Its tokens have no reading. -/
  | malformed (why : Malformed)
  /-- Its text has no tokens. -/
  | unsplit (why : ScanFault)
  deriving DecidableEq, Repr

/-- The message of a fault. -/
def Fault.message : Fault → String
  | unsupported what => "unsupported construct: " ++ what.message
  | malformed why => "formula parse error: " ++ why.message
  | unsplit why => "formula tokenize error: " ++ why.message

end ReportCompiler.Formula
