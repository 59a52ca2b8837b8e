import ReportCompiler.Formula.Function
import ReportCompiler.Formula.Operator

/-!
# Expressions of the generated program

An expression is built with the grouping of the formula and written with the grouping of the
program.  Only where the two differ does writing add brackets; the brackets of the formula itself
are nodes of the tree.

* `Expr` - the trees.
* `Expr.strength` - how strongly the written form binds.
* `Expr.render` - the written form.
-/

namespace ReportCompiler.Formula

/-- An expression of the generated program. -/
inductive Expr
  /-- A number literal, by its text. -/
  | number (text : String)
  /-- A text literal, already quoted. -/
  | text (literal : String)
  /-- A truth value. -/
  | bool (value : Bool)
  /-- A variable that an earlier instruction binds. -/
  | var (name : String)
  /-- Program text that is taken as it is. -/
  | raw (text : String)
  /-- The members of a range, row by row. -/
  | list (items : List Expr)
  /-- Brackets of the formula. -/
  | group (inner : Expr)
  /-- A sign in front. -/
  | unary (op : UnaryOp) (operand : Expr)
  /-- A percent sign behind. -/
  | percent (operand : Expr)
  /-- An infix operator. -/
  | binary (op : BinaryOp) (left right : Expr)
  /-- A choice between two values. -/
  | conditional (cond onTrue onFalse : Expr)
  /-- A function call. -/
  | call (func : Function) (args : List Expr)
  deriving Repr, Inhabited, BEq

/-- How strongly a piece of program text binds, from a choice to what needs no brackets at all. -/
inductive Strength
  /-- A choice. -/
  | conditional
  /-- A comparison. -/
  | comparison
  /-- A sum or difference. -/
  | additive
  /-- A product or quotient. -/
  | multiplicative
  /-- A sign in front. -/
  | unary
  /-- A power. -/
  | power
  /-- A literal, a name, a call or brackets. -/
  | atom
  deriving DecidableEq, Repr, Inhabited

/-- The place of a strength in their order. -/
def Strength.rank : Strength → Nat
  | conditional => 1
  | comparison => 4
  | additive => 6
  | multiplicative => 7
  | unary => 8
  | power => 9
  | atom => 10

/-- The strength of an infix operator of the program.  Joined texts are written as a call. -/
def BinaryOp.strength : BinaryOp → Strength
  | .concat => .atom
  | .add | .sub => .additive
  | .mul | .div => .multiplicative
  | .pow => .power
  | .eq | .ne | .lt | .gt | .le | .ge => .comparison

/-- The text begins with a minus sign. -/
def beginsWithMinus (s : String) : Bool :=
  s.toList.head? = some '-'

namespace Expr

/-- How strongly the written form binds. -/
def strength : Expr → Strength
  | number t => if beginsWithMinus t then .unary else .atom
  | unary _ _ => .unary
  | binary op _ _ => op.strength
  | conditional _ _ _ => .conditional
  | _ => .atom

/-- The text in brackets. -/
def bracketed (s : String) : String :=
  "(" ++ s ++ ")"

/-- The written operand of an operator of strength `outer`: in brackets when it binds more loosely,
and when `strict` also when it binds as strongly. -/
def operandText (inner : Strength) (written : String) (outer : Strength) (strict : Bool) : String :=
  if inner.rank < outer.rank || (strict && inner.rank == outer.rank) then bracketed written
  else written

/-- The written form of an infix operator.  The program chains comparisons and groups powers to the
right, so these keep even an equally strong left operand in brackets. -/
def binaryText (op : BinaryOp) (leftStrength : Strength) (left : String)
    (rightStrength : Strength) (right : String) : String :=
  if op = .concat then "xls_concat(" ++ left ++ ", " ++ right ++ ")"
  else
    operandText leftStrength left op.strength (op.isComparison || op == .pow) ++ " " ++
      op.targetSymbol ++ " " ++ operandText rightStrength right op.strength true

mutual

/-- The expression as text of the generated program. -/
def render : Expr → String
  | number t => t
  | text t => t
  | bool b => if b then "True" else "False"
  | var name => name
  | raw t => t
  | list items => "[" ++ Function.joined (renderAll items) ++ "]"
  | group inner => bracketed inner.render
  | unary op operand => op.symbol ++ operandText operand.strength operand.render .unary false
  | percent operand =>
    "(" ++ operandText operand.strength operand.render .multiplicative false ++ " / 100)"
  | binary op left right =>
    binaryText op left.strength left.render right.strength right.render
  | conditional cond onTrue onFalse =>
    Function.conditionalText cond.render onTrue.render onFalse.render
  | call func args => func.callText (renderAll args)

/-- The texts of several expressions. -/
def renderAll : List Expr → List String
  | [] => []
  | e :: rest => e.render :: renderAll rest

end

theorem renderAll_eq_map (es : List Expr) : renderAll es = es.map render := by
  induction es with
  | nil => rfl
  | cons e rest ih => rw [renderAll, ih, List.map_cons]

end Expr

end ReportCompiler.Formula
