import ReportCompiler.Proofs.Formula.References
import ReportCompiler.Workbook.Names

/-!
# Formulas as trees

What an author of a spreadsheet has in mind when writing a formula, before it is a text: literals,
references, brackets, signs, percent signs, infix operators and calls.  A tree has a written form,
the tokens that the written form should fall into, and the expression that it should become once
its references are answered.

Brackets are nodes of the tree, as they are of expressions, so that writing adds none.  A tree is
well formed when they stand wherever the spreadsheet's precedence asks for them: the left operand of
an infix operator binds at least as strongly as the operator, and the right one more strongly.

## Main definitions

* `NumberText`, `CoordinateText`, `ReferenceText` - the operands, by their parts.
* `Term` - the trees.
* `Term.written` - the written form, without the equals sign in front.
* `Term.tokens` - the tokens that it falls into.
* `Term.expr` - the expression that it becomes.
* `Term.wellFormed` - operands have the form they should and brackets stand where they must.
* `Term.suits` - the answers to the references are lists exactly for ranges.
* `Term.supplied` - the answers leave every call something to work on.
-/

namespace ReportCompiler.Formula

/-! ### Operands -/

/-- A number without sign, by the parts that it is written with. -/
structure NumberText where
  /-- The digits in front of the point. -/
  whole : List Char
  /-- The digits behind the point, if there is one. -/
  fraction : Option (List Char)
  /-- The sign, true for minus, and the digits of the exponent, if there is one. -/
  exponent : Option (Bool × List Char)
  deriving DecidableEq, Repr

/-- A point and the digits behind it, if there is one. -/
def fractionText : Option (List Char) → List Char
  | none => []
  | some digits => '.' :: digits

/-- The sign of an exponent. -/
def exponentSign (negative : Bool) : Char :=
  if negative then '-' else '+'

/-- An exponent with its sign, if there is one. -/
def exponentText : Option (Bool × List Char) → List Char
  | none => []
  | some (negative, digits) => 'E' :: exponentSign negative :: digits

/-- The text is made of digits, at least one. -/
def areDigits (cs : List Char) : Bool :=
  cs.all Char.isDigit && !cs.isEmpty

namespace NumberText

/-- The number as it is written. -/
def text (n : NumberText) : List Char :=
  n.whole ++ fractionText n.fraction ++ exponentText n.exponent

/-- What may stand in front of an exponent: one digit other than zero, and some behind a point. -/
def isMantissa (n : NumberText) : Bool :=
  n.fraction != some [] &&
    match n.whole with
    | [lead] => '1' ≤ lead
    | _ => false

/-- Digits are digits, and there are some in front of the point or behind it.  An exponent has
digits and stands behind a mantissa. -/
def wellFormed (n : NumberText) : Bool :=
  n.whole.all Char.isDigit && (n.fraction.getD []).all Char.isDigit &&
    !(n.whole.isEmpty && (n.fraction.getD []).isEmpty) &&
    n.exponent.all (areDigits ·.2) && (n.exponent.isNone || n.isMantissa)

end NumberText

/-- A coordinate, with dollar signs in front of its parts or without. -/
structure CoordinateText where
  /-- A dollar sign stands in front of the column. -/
  fixedColumn : Bool
  /-- The letters of the column. -/
  column : List Char
  /-- A dollar sign stands in front of the row. -/
  fixedRow : Bool
  /-- The digits of the row. -/
  row : List Char
  deriving DecidableEq, Repr

/-- A dollar sign, if there is one. -/
def dollar (fixed : Bool) : List Char :=
  if fixed then ['$'] else []

namespace CoordinateText

/-- The coordinate as it is written. -/
def text (c : CoordinateText) : List Char :=
  dollar c.fixedColumn ++ c.column ++ dollar c.fixedRow ++ c.row

/-- The column has letters and the row has digits. -/
def wellFormed (c : CoordinateText) : Bool :=
  c.column.all Char.isAlpha && !c.column.isEmpty && areDigits c.row

end CoordinateText

/-- A text with every `q` in it doubled. -/
def doubled (q : Char) (cs : List Char) : List Char :=
  cs.flatMap fun c => if c = q then [q, q] else [c]

/-- A text between two `q`, with every `q` in it doubled. -/
def enclosed (q : Char) (cs : List Char) : List Char :=
  q :: doubled q cs ++ [q]

/-- The sheet in front of a coordinate, in single quotes. -/
def qualifier : Option String → List Char
  | none => []
  | some title => enclosed '\'' title.toList ++ ['!']

/-- A reference. -/
inductive ReferenceText
  /-- A cell, perhaps of another sheet. -/
  | cell (sheet : Option String) (place : CoordinateText)
  /-- A range of cells, perhaps of another sheet. -/
  | range (sheet : Option String) (first last : CoordinateText)
  /-- A defined name. -/
  | name (name : String)
  deriving DecidableEq, Repr

namespace ReferenceText

/-- The reference as it is written. -/
def text : ReferenceText → List Char
  | cell sheet c => qualifier sheet ++ c.text
  | range sheet first last => qualifier sheet ++ first.text ++ ':' :: last.text
  | name n => n.toList

/-- The text is a name that a workbook can define, and no truth value. -/
def isDefinable (n : String) : Bool :=
  n.toList.head?.any isNameStart && n.toList.all isNameChar && n != "TRUE" && n != "FALSE"

/-- Coordinates and names have the form they should. -/
def wellFormed : ReferenceText → Bool
  | cell _ c => c.wellFormed
  | range _ first last => first.wellFormed && last.wellFormed
  | name n => isDefinable n

/-- The reference is a range. -/
def isRange : ReferenceText → Bool
  | range _ _ _ => true
  | _ => false

end ReferenceText

/-! ### Trees -/

/-- A formula. -/
inductive Term
  /-- A number. -/
  | number (n : NumberText)
  /-- A text. -/
  | text (s : String)
  /-- A truth value. -/
  | bool (b : Bool)
  /-- A reference. -/
  | reference (r : ReferenceText)
  /-- Brackets. -/
  | group (inner : Term)
  /-- A sign in front. -/
  | sign (op : UnaryOp) (operand : Term)
  /-- A percent sign behind. -/
  | percent (operand : Term)
  /-- An infix operator. -/
  | binary (op : BinaryOp) (left right : Term)
  /-- A call. -/
  | call (func : Function) (args : List Term)
  deriving Repr, Inhabited

/-- A truth value as formulas write it. -/
def boolText (b : Bool) : List Char :=
  if b then "TRUE".toList else "FALSE".toList

/-- A text as the program's language writes it: in double quotes, or quoted anew when something in
it has to be escaped. -/
def literalOf (s : String) : String :=
  if s.toList.any needsRequoting then quoted s else String.ofList ('"' :: s.toList ++ ['"'])

namespace Term

/-- How strongly the formula binds; operands, brackets and calls bind most strongly. -/
def strength : Term → Nat
  | binary op _ _ => op.precedence
  | percent _ => 6
  | sign _ _ => 7
  | _ => 8

/-- The formula is a range. -/
def isRange : Term → Bool
  | reference r => r.isRange
  | _ => false

mutual

/-- The formula as it is written, without the equals sign in front and without blanks. -/
def written : Term → List Char
  | number n => n.text
  | text s => enclosed '"' s.toList
  | bool b => boolText b
  | reference r => r.text
  | group inner => '(' :: inner.written ++ [')']
  | sign op operand => op.symbol.toList ++ operand.written
  | percent operand => operand.written ++ ['%']
  | binary op left right => left.written ++ op.symbol.toList ++ right.written
  | call func args => func.name.toList ++ '(' :: writtenAll args ++ [')']

/-- Arguments with commas between them. -/
def writtenAll : List Term → List Char
  | [] => []
  | [arg] => arg.written
  | arg :: next :: rest => arg.written ++ ',' :: writtenAll (next :: rest)

end

mutual

/-- The tokens that the written form falls into. -/
def tokens : Term → List Token
  | number n => [.operand (String.ofList n.text)]
  | text s => [.operand (String.ofList (enclosed '"' s.toList))]
  | bool b => [.operand (String.ofList (boolText b))]
  | reference r => [.operand (String.ofList r.text)]
  | group inner => ⟨.paren, .opener, "("⟩ :: inner.tokens ++ [⟨.paren, .closer, ")"⟩]
  | sign op operand => ⟨.prefixOp, .plain, op.symbol⟩ :: operand.tokens
  | percent operand => operand.tokens ++ [⟨.postfixOp, .plain, "%"⟩]
  | binary op left right => left.tokens ++ ⟨.infixOp, .plain, op.symbol⟩ :: right.tokens
  | call func args =>
    ⟨.func, .opener, func.name ++ "("⟩ :: tokensAll args ++ [⟨.func, .closer, ")"⟩]

/-- The tokens of arguments with commas between them. -/
def tokensAll : List Term → List Token
  | [] => []
  | [arg] => arg.tokens
  | arg :: next :: rest => arg.tokens ++ ⟨.sep, .arg, ","⟩ :: tokensAll (next :: rest)

end

mutual

/-- The expression that the formula becomes when `ρ` answers its references: a choice for `IF`, and
for the other functions a call in which the members of ranges stand among the arguments. -/
def expr (ρ : String → Expr) : Term → Expr
  | number n => .number (String.ofList n.text)
  | text s => .text (literalOf s)
  | bool b => .bool b
  | reference r => ρ (String.ofList r.text)
  | group inner => .group (inner.expr ρ)
  | sign op operand => .unary op (operand.expr ρ)
  | percent operand => .percent (operand.expr ρ)
  | binary op left right => .binary op (left.expr ρ) (right.expr ρ)
  | call func args =>
    if func = .if then
      match exprAll ρ args with
      | [cond, onTrue] => .conditional cond onTrue (.bool false)
      | [cond, onTrue, onFalse] => .conditional cond onTrue onFalse
      | _ => default
    else .call func ((exprAll ρ args).flatMap argumentItems)

/-- The expressions that several formulas become. -/
def exprAll (ρ : String → Expr) : List Term → List Expr
  | [] => []
  | t :: rest => t.expr ρ :: exprAll ρ rest

end

/-- The number of arguments that a function takes: two or three for a choice, and at least one for
every other. -/
def admits (func : Function) (count : Nat) : Bool :=
  if func = .if then count = 2 || count = 3 else 0 < count

mutual

/-- Operands have the form they should, brackets stand where precedence asks for them, ranges are
arguments, and functions have arguments as they need. -/
def wellFormed : Term → Bool
  | number n => n.wellFormed
  | text _ => true
  | bool _ => true
  | reference r => r.wellFormed
  | group inner => inner.wellFormed && !inner.isRange
  | sign _ operand => operand.wellFormed && !operand.isRange && 7 ≤ operand.strength
  | percent operand => operand.wellFormed && !operand.isRange && 6 ≤ operand.strength
  | binary op left right =>
    left.wellFormed && !left.isRange && op.precedence ≤ left.strength &&
      (right.wellFormed && !right.isRange && op.precedence < right.strength)
  | call func args => admits func args.length && wellFormedAll args

/-- All the formulas are well formed. -/
def wellFormedAll : List Term → Bool
  | [] => true
  | t :: rest => t.wellFormed && wellFormedAll rest

end

mutual

/-- The answers of `ρ` fit the formula: they are lists exactly for ranges. -/
def suits (ρ : String → Expr) : Term → Bool
  | reference r => (ρ (String.ofList r.text)).isList = r.isRange
  | group inner => inner.suits ρ
  | sign _ operand => operand.suits ρ
  | percent operand => operand.suits ρ
  | binary _ left right => left.suits ρ && right.suits ρ
  | call _ args => suitsAll ρ args
  | _ => true

/-- The answers of `ρ` fit all the formulas. -/
def suitsAll (ρ : String → Expr) : List Term → Bool
  | [] => true
  | t :: rest => t.suits ρ && suitsAll ρ rest

end

mutual

/-- With the answers of `ρ`, no call but a choice is left without any member to work on. -/
def supplied (ρ : String → Expr) : Term → Bool
  | group inner => inner.supplied ρ
  | sign _ operand => operand.supplied ρ
  | percent operand => operand.supplied ρ
  | binary _ left right => left.supplied ρ && right.supplied ρ
  | call func args =>
    suppliedAll ρ args && (func = .if || !((exprAll ρ args).flatMap argumentItems).isEmpty)
  | _ => true

/-- With the answers of `ρ`, none of the formulas has a call without any member. -/
def suppliedAll (ρ : String → Expr) : List Term → Bool
  | [] => true
  | t :: rest => t.supplied ρ && suppliedAll ρ rest

end

end Term

end ReportCompiler.Formula
