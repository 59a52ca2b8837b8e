import ReportCompiler.Formula.Call
import ReportCompiler.Formula.Quoted
import ReportCompiler.Formula.Reading

/-!
# Token lists read as formulas

The reader descends through the levels of the spreadsheet's grammar, the loosest first: comparisons,
joined texts, sums, products, powers, all of which group to the left; then percent signs, then signs
in front, then operands, brackets and calls.  Blanks are skipped everywhere.

Every function returns the tokens that are left, which are fewer than it was given, so the descent
ends.  A token counts for twelve steps of it, since no more functions are passed through from one
token to the next.

* `parseExpression` - one expression, or none where a separator, a closer or the end comes next.
* `parseFormula` - a whole token list.
* `parseFrom` - one expression from a position of a token list.
-/

namespace ReportCompiler.Formula

/-- What is left of the tokens after at least one of them has been used. -/
abbrev Rest (ts : List Token) := { rest : List Token // rest.length < ts.length }

/-- What is left of what is left. -/
def Rest.trans {ts : List Token} (r : Rest ts) (r' : Rest r.1) : Rest ts :=
  ⟨r'.1, Nat.lt_trans r'.2 r.2⟩

@[simp] theorem Rest.trans_val {ts : List Token} (r : Rest ts) (r' : Rest r.1) :
    (r.trans r').1 = r'.1 := rfl

/-- The next token that is not blank, and the tokens after it. -/
def next? : (ts : List Token) → Option (Token × Rest ts)
  | [] => none
  | t :: rest =>
    if t.kind = .whitespace then
      (next? rest).map fun (u, r) => (u, ⟨r.1, Nat.lt_succ_of_lt r.2⟩)
    else some (t, ⟨rest, Nat.lt_succ_self _⟩)

/-- The token ends an expression in front of it: a separator, or the closer of a bracket or call. -/
def Token.endsExpression (t : Token) : Bool :=
  t.kind = .sep || t.is .func .closer || t.is .paren .closer

/-- The infix operator that the token is. -/
def Token.binaryOp? (t : Token) : Option BinaryOp :=
  if t.kind = .infixOp then BinaryOp.ofSymbol? t.value else none

/-- The fault of a token that has no place where it stands. -/
def unexpected (t : Token) : Fault :=
  if t.kind = .array then .unsupported (.arrayConstant t.value)
  else if t.kind = .infixOp && (BinaryOp.ofSymbol? t.value).isNone then
    .unsupported (.operator t.value)
  else if t.is .operand .error then .unsupported (.errorValue t.value)
  else if t.kind = .literal then .unsupported (.literalToken t.value)
  else .malformed (.unexpectedToken t)

/-- The expression, which must not be a range. -/
def scalar : Expr → Reading Expr
  | .list _ => .fault (.unsupported .rangeOutsideCall)
  | e => .done e

/-- Brackets around an expression; a range stays a range. -/
def grouped : Expr → Expr
  | .list items => .list items
  | e => .group e

/-- The percent signs that follow an operand. -/
def parsePercents {ts : List Token} (e : Expr) (r : Rest ts) : Reading (Expr × Rest ts) :=
  match next? r.1 with
  | none => .done (e, r)
  | some (t, r₁) =>
    if t.kind = .postfixOp then (scalar e).bind fun e => parsePercents (.percent e) (r.trans r₁)
    else .done (e, r)
termination_by r.1.length
decreasing_by exact r₁.2

/-- What is left after an argument, which may be empty. -/
def Rest.after {ts : List Token} (r : Rest ts) : Option (Expr × Rest r.1) → Rest ts
  | none => r
  | some (_, r') => r.trans r'

theorem Rest.after_length {ts : List Token} (r : Rest ts) (arg : Option (Expr × Rest r.1)) :
    (r.after arg).1.length ≤ r.1.length := by
  cases arg with
  | none => exact Nat.le_refl _
  | some p => exact Nat.le_of_lt p.2.2

mutual

/-- One expression, or none when what comes next ends an expression. -/
def parseExpression (ts : List Token) : Reading (Option (Expr × Rest ts)) :=
  match next? ts with
  | none => .done none
  | some (t, _) => if t.endsExpression then .done none else (parseLevel 5 ts).bind (.done ∘ some)
termination_by 12 * ts.length + 9

/-- An expression of the `level` tightest levels of infix operators, on level zero an operand with
its signs and percent signs. -/
def parseLevel (level : Nat) (ts : List Token) : Reading (Expr × Rest ts) :=
  match level with
  | 0 => (parseUnary ts).bind fun (e, r) => parsePercents e r
  | n + 1 => (parseLevel n ts).bind fun (left, r) => parseInfix n left r
termination_by 12 * ts.length + level + 3

/-- The infix operators of one level, with the operands after them. -/
def parseInfix {ts : List Token} (n : Nat) (left : Expr) (r : Rest ts) :
    Reading (Expr × Rest ts) :=
  match next? r.1 with
  | none => .done (left, r)
  | some (t, r₁) =>
    match t.binaryOp? with
    | none => .done (left, r)
    | some op =>
      if op ∈ BinaryOp.level n then
        (parseLevel n r₁.1).bind fun (right, r₂) =>
          (scalar left).bind fun left =>
            (scalar right).bind fun right =>
              parseInfix n (.binary op left right) (r.trans (r₁.trans r₂))
      else .done (left, r)
termination_by 12 * r.1.length + n

/-- An operand with the signs in front of it. -/
def parseUnary (ts : List Token) : Reading (Expr × Rest ts) :=
  match next? ts with
  | none => parsePrimary ts
  | some (t, r) =>
    if t.kind = .prefixOp then
      match UnaryOp.ofSymbol? t.value with
      | none => .fault (.unsupported (.sign t.value))
      | some op =>
        (parseUnary r.1).bind fun (operand, r₁) =>
          (scalar operand).bind fun operand => .done (.unary op operand, r.trans r₁)
    else parsePrimary ts
termination_by 12 * ts.length + 1

/-- An operand, brackets or a call. -/
def parsePrimary (ts : List Token) : Reading (Expr × Rest ts) :=
  match next? ts with
  | none => .fault (.malformed .unexpectedEnd)
  | some (t, r) =>
    match t.kind, t.subkind with
    | .operand, .range => .ask t.value fun e => .done (e, r)
    | .operand, .text => .done (.text (textLiteral t.value), r)
    | .operand, .number => .done (.number t.value, r)
    | .operand, .logical => .done (.bool (Text.sameFold t.value "TRUE"), r)
    | .func, .opener =>
      match Function.ofName? t.value with
      | none => .fault (.unsupported (.function t.value))
      | some f => parseArguments f t.value [] r
    | .paren, .opener =>
      (parseExpression r.1).bind fun inner =>
        match inner with
        | none => .fault (.malformed .emptyParentheses)
        | some (e, r₁) =>
          match next? r₁.1 with
          | none => .fault (.malformed .missingClose)
          | some (u, r₂) =>
            if u.is .paren .closer then .done (grouped e, r.trans (r₁.trans r₂))
            else .fault (unexpected u)
    | _, _ =>
      if t.endsExpression || t.binaryOp?.isSome then .fault (.malformed (.missingOperand t))
      else .fault (unexpected t)
termination_by 12 * ts.length

/-- The arguments of a call from one on, up to its closer; `args` holds those before it. -/
def parseArguments {ts : List Token} (f : Function) (opener : String)
    (args : List (Option Expr)) (r : Rest ts) : Reading (Expr × Rest ts) :=
  (parseExpression r.1).bind fun arg =>
    match next? (r.after arg).1 with
    | none => .fault (.malformed (.missingCallClose opener))
    | some (t, r₁) =>
      have : r₁.1.length < r.1.length := Nat.lt_of_lt_of_le r₁.2 (r.after_length arg)
      let args := args ++ [arg.map Prod.fst]
      if t.isArgSep then parseArguments f opener args ((r.after arg).trans r₁)
      else if t.is .func .closer then
        (Reading.ofMalformed (f.apply args)).bind fun e => .done (e, (r.after arg).trans r₁)
      else .fault (unexpected t)
termination_by 12 * r.1.length + 10

end

/-- A whole token list read as one formula. -/
def parseFormula (ts : List Token) : Reading Expr :=
  (parseExpression ts).bind fun parsed =>
    let rest := match parsed with
      | none => ts
      | some (_, r) => r.1
    match next? rest, parsed with
    | some (t, _), _ => .fault (unexpected t)
    | none, none => .fault (.malformed .emptyFormula)
    | none, some (e, _) => scalar e

/-- One expression read from a position of a token list, with the position after it; a position
stays when there is nothing to read. -/
def parseFrom (ts : List Token) (pos : Nat) : Reading (Option Expr × Nat) :=
  (parseExpression (ts.drop pos)).bind fun parsed =>
    match parsed with
    | none => .done (none, pos)
    | some (e, r) => .done (some e, ts.length - r.1.length)

end ReportCompiler.Formula
