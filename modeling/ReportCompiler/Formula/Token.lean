import ReportCompiler.Decimal.Numeral
import ReportCompiler.Text.Escaped

/-!
# Tokens of formulas

A token is a piece of formula text with its kind.  Operands keep their whole text, with quotes,
sheet names and dollar signs, and are sorted afterwards; the opener of a function keeps its bracket.

* `Token` - kind, subkind and text.
* `Token.operand` - an operand, sorted by its text.
* `Token.shown` - the token as error messages show it.
-/

namespace ReportCompiler.Formula

/-- What a token is. -/
inductive TokenKind
  /-- The content of a cell without formula. -/
  | literal
  /-- A value or a reference. -/
  | operand
  /-- The opener or closer of a function. -/
  | func
  /-- The opener or closer of an array constant. -/
  | array
  /-- A bracket. -/
  | paren
  /-- A separator of arguments or rows. -/
  | sep
  /-- An operator in front of its operand. -/
  | prefixOp
  /-- An operator between two operands. -/
  | infixOp
  /-- An operator after its operand. -/
  | postfixOp
  /-- A run of blanks. -/
  | whitespace
  deriving DecidableEq, Repr, Inhabited

/-- What kind of operand, bracket or separator a token is. -/
inductive TokenSubkind
  /-- No further distinction. -/
  | plain
  /-- A text operand. -/
  | text
  /-- A number operand. -/
  | number
  /-- A truth value. -/
  | logical
  /-- An error value. -/
  | error
  /-- A reference. -/
  | range
  /-- An opener. -/
  | opener
  /-- A closer. -/
  | closer
  /-- A separator of arguments. -/
  | arg
  /-- A separator of rows. -/
  | row
  deriving DecidableEq, Repr, Inhabited

/-- The name of the kind in messages. -/
def TokenKind.name : TokenKind → String
  | literal => "Literal"
  | operand => "Operand"
  | func => "Func"
  | array => "Array"
  | paren => "Paren"
  | sep => "Sep"
  | prefixOp => "OpPrefix"
  | infixOp => "OpInfix"
  | postfixOp => "OpPostfix"
  | whitespace => "Whitespace"

/-- The name of the subkind in messages. -/
def TokenSubkind.name : TokenSubkind → String
  | plain => "None"
  | text => "Text"
  | number => "Number"
  | logical => "Logical"
  | error => "Error"
  | range => "Range"
  | opener => "Open"
  | closer => "Close"
  | arg => "Arg"
  | row => "Row"

/-- A piece of formula text. -/
structure Token where
  /-- What it is. -/
  kind : TokenKind
  /-- Which of its kind. -/
  subkind : TokenSubkind
  /-- Its text. -/
  value : String
  deriving DecidableEq, Repr, Inhabited

namespace Token

/-- The text begins like a number: with a digit or a point. -/
def beginsLikeNumber : List Char → Bool
  | c :: _ => c.isDigit || c = '.'
  | [] => false

/-- The sort of an operand, by its text. -/
def operandSubkind (s : String) : TokenSubkind :=
  match s.toList with
  | '"' :: _ => .text
  | '#' :: _ => .error
  | cs =>
    if s = "TRUE" || s = "FALSE" then .logical
    else if beginsLikeNumber cs && Decimal.isNumeral cs then .number
    else .range

/-- The operand of a text. -/
def operand (s : String) : Token :=
  ⟨.operand, operandSubkind s, s⟩

/-- The token has this kind and subkind. -/
def is (t : Token) (kind : TokenKind) (subkind : TokenSubkind) : Bool :=
  t.kind = kind && t.subkind = subkind

/-- The comma between two arguments. -/
def isArgSep (t : Token) : Bool :=
  t.kind = .sep && t.value = ","

/-- The token as messages show it: its text with escapes, then kind and subkind. -/
def shown (t : Token) : String :=
  Text.escaped t.value ++ " (" ++ t.kind.name ++
    (if t.subkind = .plain then "" else "/" ++ t.subkind.name) ++ ")"

@[simp] theorem operand_kind (s : String) : (operand s).kind = .operand := rfl

@[simp] theorem operand_value (s : String) : (operand s).value = s := rfl

end Token

end ReportCompiler.Formula
