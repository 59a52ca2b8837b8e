/-!
# Operators

The operators of formulas, how they are written there, how strongly they bind there, and how they
are written in the generated program.
-/

namespace ReportCompiler.Formula

/-- An operator in front of its operand. -/
inductive UnaryOp
  /-- Minus. -/
  | neg
  /-- Plus. -/
  | plus
  deriving DecidableEq, Repr, Inhabited

namespace UnaryOp

/-- How the operator is written, in formulas and in programs. -/
def symbol : UnaryOp → String
  | neg => "-"
  | plus => "+"

/-- Reads a sign. -/
def ofSymbol? (s : String) : Option UnaryOp :=
  if s = "-" then some neg else if s = "+" then some plus else none

end UnaryOp

/-- An operator between two operands. -/
inductive BinaryOp
  /-- Equal. -/
  | eq
  /-- Not equal. -/
  | ne
  /-- Less. -/
  | lt
  /-- Greater. -/
  | gt
  /-- Less or equal. -/
  | le
  /-- Greater or equal. -/
  | ge
  /-- Texts joined. -/
  | concat
  /-- Sum. -/
  | add
  /-- Difference. -/
  | sub
  /-- Product. -/
  | mul
  /-- Quotient. -/
  | div
  /-- Power. -/
  | pow
  deriving DecidableEq, Repr, Inhabited

namespace BinaryOp

/-- All infix operators. -/
def all : List BinaryOp :=
  [eq, ne, lt, gt, le, ge, concat, add, sub, mul, div, pow]

/-- How the operator is written in formulas. -/
def symbol : BinaryOp → String
  | eq => "="
  | ne => "<>"
  | lt => "<"
  | gt => ">"
  | le => "<="
  | ge => ">="
  | concat => "&"
  | add => "+"
  | sub => "-"
  | mul => "*"
  | div => "/"
  | pow => "^"

/-- Reads an infix operator of a formula.  The union `,` and the intersection by a space are not
among them. -/
def ofSymbol? (s : String) : Option BinaryOp :=
  all.find? fun op => op.symbol == s

/-- How strongly the operator binds in formulas, the loosest first.  All levels group to the left.
-/
def precedence : BinaryOp → Nat
  | eq | ne | lt | gt | le | ge => 1
  | concat => 2
  | add | sub => 3
  | mul | div => 4
  | pow => 5

/-- The operators that the reader takes on a level of infix operators, the tightest level first. -/
def level : Nat → List BinaryOp
  | 0 => [pow]
  | 1 => [mul, div]
  | 2 => [add, sub]
  | 3 => [concat]
  | 4 => [eq, ne, lt, gt, le, ge]
  | _ => []

/-- How the operator is written in the program. -/
def targetSymbol : BinaryOp → String
  | eq => "=="
  | ne => "!="
  | lt => "<"
  | gt => ">"
  | le => "<="
  | ge => ">="
  | concat => "&"
  | add => "+"
  | sub => "-"
  | mul => "*"
  | div => "/"
  | pow => "**"

/-- The operator compares its operands. -/
def isComparison (op : BinaryOp) : Bool :=
  op.precedence == 1

/-- The levels of the reader are those of the precedences. -/
theorem mem_level {op : BinaryOp} {n : Nat} : op ∈ level n ↔ op.precedence + n = 5 := by
  match n with
  | 0 | 1 | 2 | 3 | 4 => cases op <;> decide
  | n + 5 =>
    have hpos : 1 ≤ op.precedence := by cases op <;> decide
    refine ⟨fun h => absurd h List.not_mem_nil, fun h => ?_⟩
    omega

theorem ofSymbol?_symbol (op : BinaryOp) : ofSymbol? op.symbol = some op := by
  cases op <;> decide

end BinaryOp

end ReportCompiler.Formula
