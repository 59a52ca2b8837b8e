import ReportCompiler.Proofs.Formula.Term

/-!
# The grammar of formulas

Which token lists are formulas, and of which expressions, said by rules and without the reader.  The
rules are in layers.  From the loosest to the tightest these are the five precedences of infix
operators, which group to the left, then percent signs, then signs in front, then operands, brackets
and calls.  A layer is named by its strength, as that of a tree is: 1 to 5 for infix operators, 6
for percent signs, 7 for signs, and 8 for what needs no brackets.

A range stands for a list of members.  It may be an argument of a call, also in brackets, but
neither an operand of an operator nor a whole formula.

## Main definitions

* `Operand resolve t e` - the operand `t` stands for `e`.
* `CallMakes f args e` - the call of `f` with the arguments `args`, some of them empty, is `e`.
* `Derives resolve k ts e` - on the layer of strength `k` the tokens `ts` derive `e`.
* `IsFormula resolve ts e` - the tokens `ts` are a formula of `e`.

## Main results

* `apply_eq_ok_iff` - a function takes the arguments that the grammar admits, and no others.
-/

namespace ReportCompiler.Formula

variable {ε : Type}

/-! ### Operands -/

/-- An operand stands for an expression: a reference for what it is resolved to, a literal for
itself. -/
inductive Operand (resolve : String → Except ε Expr) : Token → Expr → Prop
  | reference {t : Token} {e : Expr} (ht : t.is .operand .range) (h : resolve t.value = .ok e) :
    Operand resolve t e
  | text {t : Token} (ht : t.is .operand .text) :
    Operand resolve t (.text (textLiteral t.value))
  | number {t : Token} (ht : t.is .operand .number) :
    Operand resolve t (.number t.value)
  | logical {t : Token} (ht : t.is .operand .logical) :
    Operand resolve t (.bool (Text.sameFold t.value "TRUE"))

/-! ### Calls -/

/-- The arguments that a call is left with: empty ones do not count, and a range counts for its
members. -/
def callItems (args : List (Option Expr)) : List Expr :=
  (args.filterMap id).flatMap argumentItems

/-- The call of a function with arguments, some of them empty, is an expression.  A choice has two
arguments or three, and its condition is not empty; every other call has at least one argument. -/
inductive CallMakes : Function → List (Option Expr) → Expr → Prop
  | ifThen (cond : Expr) (onTrue : Option Expr) :
    CallMakes .if [some cond, onTrue]
      (.conditional cond (onTrue.getD (.number "0")) (.bool false))
  | ifThenElse (cond : Expr) (onTrue onFalse : Option Expr) :
    CallMakes .if [some cond, onTrue, onFalse]
      (.conditional cond (onTrue.getD (.number "0")) (onFalse.getD (.number "0")))
  | other {f : Function} {args : List (Option Expr)} (hf : f ≠ .if) (h : callItems args ≠ []) :
    CallMakes f args (.call f (callItems args))

theorem callMakes_of_conditionalOf {args : List (Option Expr)} {e : Expr}
    (h : conditionalOf args = .ok e) : CallMakes .if args e := by
  unfold conditionalOf at h
  split at h
  · rename_i cond onTrue
    cases cond with
    | none => cases h
    | some cond =>
      obtain rfl := Except.ok.inj h
      exact .ifThen cond onTrue
  · rename_i cond onTrue onFalse
    cases cond with
    | none => cases h
    | some cond =>
      obtain rfl := Except.ok.inj h
      exact .ifThenElse cond onTrue onFalse
  · cases h

/-- A function takes the arguments that the grammar admits, and no others. -/
theorem apply_eq_ok_iff {f : Function} {args : List (Option Expr)} {e : Expr} :
    f.apply args = .ok e ↔ CallMakes f args e := by
  constructor
  · intro h
    unfold Function.apply at h
    split at h
    case isTrue hif =>
      subst hif
      exact callMakes_of_conditionalOf h
    case isFalse hif =>
      split at h
      case h_1 => cases h
      case h_2 hne =>
        obtain rfl := Except.ok.inj h
        exact .other hif hne
  · intro h
    cases h with
    | ifThen cond onTrue => rfl
    | ifThenElse cond onTrue onFalse => rfl
    | other hif hne =>
      rw [Function.apply, if_neg hif]
      split
      case h_1 hnil => exact absurd hnil hne
      case h_2 => rfl

/-! ### Layers -/

mutual

/-- On the layer of strength `k`, the tokens derive the expression. -/
inductive Derives (resolve : String → Except ε Expr) : Nat → List Token → Expr → Prop
  /-- What a tighter layer derives. -/
  | tighter {k : Nat} {ts : List Token} {e : Expr} (h : Derives resolve (k + 1) ts e) :
    Derives resolve k ts e
  /-- An infix operator.  Its left operand may be of the same precedence, its right one not. -/
  | binary {ts us : List Token} {t : Token} {op : BinaryOp} {left right : Expr}
    (hleft : Derives resolve op.precedence ts left) (ht : t.binaryOp? = some op)
    (hright : Derives resolve (op.precedence + 1) us right)
    (hl : left.isList = false) (hr : right.isList = false) :
    Derives resolve op.precedence (ts ++ t :: us) (.binary op left right)
  /-- A percent sign behind.  There is no other operator of its kind. -/
  | percent {ts : List Token} {t : Token} {e : Expr} (h : Derives resolve 6 ts e)
    (ht : t.kind = .postfixOp) (he : e.isList = false) :
    Derives resolve 6 (ts ++ [t]) (.percent e)
  /-- A sign in front. -/
  | sign {t : Token} {ts : List Token} {op : UnaryOp} {e : Expr} (ht : t.kind = .prefixOp)
    (hop : UnaryOp.ofSymbol? t.value = some op) (h : Derives resolve 7 ts e)
    (he : e.isList = false) : Derives resolve 7 (t :: ts) (.unary op e)
  /-- A reference or a literal. -/
  | operand {t : Token} {e : Expr} (h : Operand resolve t e) : Derives resolve 8 [t] e
  /-- Brackets. -/
  | group {o c : Token} {ts : List Token} {e : Expr} (ho : o.is .paren .opener)
    (h : Derives resolve 1 ts e) (hc : c.is .paren .closer) :
    Derives resolve 8 (o :: ts ++ [c]) (grouped e)
  /-- The call of a function. -/
  | call {o c : Token} {ts : List Token} {f : Function} {args : List (Option Expr)} {e : Expr}
    (ho : o.is .func .opener) (hf : Function.ofName? o.value = some f)
    (hargs : DerivesAll resolve ts args) (hc : c.is .func .closer) (h : CallMakes f args e) :
    Derives resolve 8 (o :: ts ++ [c]) e

/-- The tokens derive the arguments of a call, with commas between them. -/
inductive DerivesAll (resolve : String → Except ε Expr) : List Token → List (Option Expr) → Prop
  /-- The last argument. -/
  | last {ts : List Token} {arg : Option Expr} (h : DerivesArgument resolve ts arg) :
    DerivesAll resolve ts [arg]
  /-- An argument, and more behind a comma. -/
  | more {ts us : List Token} {t : Token} {arg : Option Expr} {args : List (Option Expr)}
    (h : DerivesArgument resolve ts arg) (ht : t.isArgSep) (hargs : DerivesAll resolve us args) :
    DerivesAll resolve (ts ++ t :: us) (arg :: args)

/-- The tokens derive one argument of a call. -/
inductive DerivesArgument (resolve : String → Except ε Expr) :
    List Token → Option Expr → Prop
  /-- An empty argument. -/
  | empty : DerivesArgument resolve [] none
  /-- An expression. -/
  | given {ts : List Token} {e : Expr} (h : Derives resolve 1 ts e) :
    DerivesArgument resolve ts (some e)

end

/-- The tokens are a formula of the expression. -/
def IsFormula (resolve : String → Except ε Expr) (ts : List Token) (e : Expr) : Prop :=
  Derives resolve 1 ts e ∧ e.isList = false

end ReportCompiler.Formula
