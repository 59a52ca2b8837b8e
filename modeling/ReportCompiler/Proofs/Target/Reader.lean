import ReportCompiler.Formula.Expr
import ReportCompiler.Proofs.Target.Lexeme

/-!
# Expressions of the generated program, read

The grammar of the program's expressions, from the loosest to the tightest level: a choice; a
comparison, which has two operands and no more; sums and differences, grouped to the left; products
and quotients, grouped to the left; signs in front; a power, whose right operand may have signs of
its own and so groups to the right; and primaries, which are literals, names, brackets, lists, and
what calls, attributes and subscripts make of them.

The reader descends through these levels, and each of its functions returns the lexemes that are
left, which are fewer than it was given.

## Main definitions

* `Tree` - the trees that the program's language reads.
* `readTest`, …, `readAtom` - the levels of the grammar.
* `read?` - the tree of a whole text.
* `Gives`, `GoesOn`, `Trails` - what a reader finds and leaves.
* `Lexeme.reach`, `Stops` - the level that a lexeme goes on with an expression at.

## Main results

* `gives_test_choice`, `goesOn_step`, `trails_call`, … - one lemma for each rule of the grammar.
  What follows in the development uses the rules and never the recursion.
-/

namespace ReportCompiler.Target

open Formula (BinaryOp UnaryOp Strength)

/-- An expression as the program's language reads it. -/
inductive Tree
  /-- A number literal. -/
  | number (text : String)
  /-- A string literal. -/
  | string (text : String)
  /-- A truth value. -/
  | bool (value : Bool)
  /-- A name. -/
  | name (text : String)
  /-- A list. -/
  | list (items : List Tree)
  /-- A sign in front. -/
  | unary (op : UnaryOp) (operand : Tree)
  /-- An operator between two operands. -/
  | binary (op : BinaryOp) (left right : Tree)
  /-- A choice between two values. -/
  | conditional (cond onTrue onFalse : Tree)
  /-- A call. -/
  | call (func : Tree) (args : List Tree)
  /-- An attribute of an object. -/
  | attribute (object : Tree) (name : String)
  /-- An element of a container. -/
  | subscript (container index : Tree)
  deriving Repr, Inhabited, BEq

/-- The operator that a symbol stands for on a level of the grammar. -/
def Symbol.operator? : Symbol → Strength → Option BinaryOp
  | .eq, .comparison => some .eq
  | .ne, .comparison => some .ne
  | .lt, .comparison => some .lt
  | .gt, .comparison => some .gt
  | .le, .comparison => some .le
  | .ge, .comparison => some .ge
  | .plus, .additive => some .add
  | .minus, .additive => some .sub
  | .times, .multiplicative => some .mul
  | .over, .multiplicative => some .div
  | .power, .power => some .pow
  | _, _ => none

/-- The sign that a symbol stands for in front of an operand. -/
def Symbol.sign? : Symbol → Option UnaryOp
  | .minus => some .neg
  | .plus => some .plus
  | _ => none

/-- What is left of some lexemes after at least one of them. -/
abbrev Left (ls : List Lexeme) := { rest : List Lexeme // rest.length < ls.length }

/-- What is left of what is left. -/
def Left.trans {ls : List Lexeme} (r : Left ls) (r' : Left r.1) : Left ls :=
  ⟨r'.1, Nat.lt_trans r'.2 r.2⟩

@[simp] theorem Left.trans_val {ls : List Lexeme} (r : Left ls) (r' : Left r.1) :
    (r.trans r').1 = r'.1 := rfl

/-- The first lexeme is left out. -/
def Left.tail (x : Lexeme) (rest : List Lexeme) : Left (x :: rest) :=
  ⟨rest, Nat.lt_succ_self _⟩

/-- What comes after the lexeme `x`, if it comes next. -/
def expect (x : Lexeme) : (ls : List Lexeme) → Option (Left ls)
  | [] => none
  | y :: rest => if y = x then some (.tail y rest) else none

/-- The operator of a level that comes next, and what comes after it. -/
def operator? (level : Strength) : (ls : List Lexeme) → Option (BinaryOp × Left ls)
  | .symbol s :: rest => (s.operator? level).map (·, .tail _ rest)
  | _ => none

/-- The sign that comes next, and what comes after it. -/
def sign? : (ls : List Lexeme) → Option (UnaryOp × Left ls)
  | .symbol s :: rest => s.sign?.map (·, .tail _ rest)
  | _ => none

/-- The name that comes next, and what comes after it. -/
def name? : (ls : List Lexeme) → Option (String × Left ls)
  | .name n :: rest => some (n, .tail _ rest)
  | _ => none

/-- The levels of operators that group to the left, products inside sums. -/
def leftLevel : Nat → Strength
  | 0 => .multiplicative
  | _ => .additive

mutual

/-- A choice, or what binds more tightly. -/
def readTest (ls : List Lexeme) : Option (Tree × Left ls) :=
  (readComparison ls).bind fun (t, r) =>
    match expect .if r.1 with
    | none => some (t, r)
    | some r₁ =>
      (readComparison r₁.1).bind fun (cond, r₂) =>
        (expect .else r₂.1).bind fun r₃ =>
          (readTest r₃.1).bind fun (u, r₄) =>
            some (.conditional cond t u, r.trans (r₁.trans (r₂.trans (r₃.trans r₄))))
termination_by 12 * ls.length + 8

/-- A comparison, or what binds more tightly. -/
def readComparison (ls : List Lexeme) : Option (Tree × Left ls) :=
  (readLevel 2 ls).bind fun (t, r) =>
    match operator? .comparison r.1 with
    | none => some (t, r)
    | some (op, r₁) =>
      (readLevel 2 r₁.1).bind fun (u, r₂) => some (.binary op t u, r.trans (r₁.trans r₂))
termination_by 12 * ls.length + 7

/-- The `level` tightest levels that group to the left: on level two sums, on level one products, on
level zero what binds more tightly. -/
def readLevel (level : Nat) (ls : List Lexeme) : Option (Tree × Left ls) :=
  match level with
  | 0 => readUnary ls
  | n + 1 => (readLevel n ls).bind fun (t, r) => readInfix n t r
termination_by 12 * ls.length + level + 4

/-- The operators of one level, with the operands after them. -/
def readInfix {ls : List Lexeme} (n : Nat) (t : Tree) (r : Left ls) : Option (Tree × Left ls) :=
  match operator? (leftLevel n) r.1 with
  | none => some (t, r)
  | some (op, r₁) =>
    (readLevel n r₁.1).bind fun (u, r₂) =>
      readInfix n (.binary op t u) (r.trans (r₁.trans r₂))
termination_by 12 * r.1.length + n

/-- Signs in front of what binds more tightly. -/
def readUnary (ls : List Lexeme) : Option (Tree × Left ls) :=
  match sign? ls with
  | none => readPower ls
  | some (op, r) => (readUnary r.1).bind fun (t, r₁) => some (.unary op t, r.trans r₁)
termination_by 12 * ls.length + 3

/-- A power, or a primary. -/
def readPower (ls : List Lexeme) : Option (Tree × Left ls) :=
  (readPrimary ls).bind fun (t, r) =>
    match operator? .power r.1 with
    | none => some (t, r)
    | some (op, r₁) =>
      (readUnary r₁.1).bind fun (u, r₂) => some (.binary op t u, r.trans (r₁.trans r₂))
termination_by 12 * ls.length + 2

/-- An atom with its calls, attributes and subscripts. -/
def readPrimary (ls : List Lexeme) : Option (Tree × Left ls) :=
  (readAtom ls).bind fun (t, r) => readTrailers t r
termination_by 12 * ls.length + 1

/-- The calls, attributes and subscripts that follow. -/
def readTrailers {ls : List Lexeme} (t : Tree) (r : Left ls) : Option (Tree × Left ls) :=
  match expect (.symbol .dot) r.1 with
  | some r₁ =>
    (name? r₁.1).bind fun (n, r₂) => readTrailers (.attribute t n) (r.trans (r₁.trans r₂))
  | none =>
    match expect (.symbol .leftBracket) r.1 with
    | some r₁ =>
      (readItems .rightBracket r₁.1).bind fun (args, r₂) =>
        readTrailers (.call t args) (r.trans (r₁.trans r₂))
    | none =>
      match expect (.symbol .leftSquare) r.1 with
      | some r₁ =>
        (readTest r₁.1).bind fun (i, r₂) =>
          (expect (.symbol .rightSquare) r₂.1).bind fun r₃ =>
            readTrailers (.subscript t i) (r.trans (r₁.trans (r₂.trans r₃)))
      | none => some (t, r)
termination_by 12 * r.1.length

/-- A literal, a name, brackets or a list. -/
def readAtom (ls : List Lexeme) : Option (Tree × Left ls) :=
  match ls with
  | .number s :: rest => some (.number s, .tail _ rest)
  | .string s :: rest => some (.string s, .tail _ rest)
  | .bool b :: rest => some (.bool b, .tail _ rest)
  | .name n :: rest => some (.name n, .tail _ rest)
  | .symbol .leftBracket :: rest =>
    (readTest rest).bind fun (t, r) =>
      (expect (.symbol .rightBracket) r.1).bind fun r₁ =>
        some (t, (Left.tail _ rest).trans (r.trans r₁))
  | .symbol .leftSquare :: rest =>
    (readItems .rightSquare rest).bind fun (ts, r) => some (.list ts, (Left.tail _ rest).trans r)
  | _ => none
termination_by 12 * ls.length

/-- Items with commas between them, up to the closing bracket. -/
def readItems (close : Symbol) (ls : List Lexeme) : Option (List Tree × Left ls) :=
  match expect (.symbol close) ls with
  | some r => some ([], r)
  | none =>
    (readTest ls).bind fun (t, r) =>
      match expect (.symbol .comma) r.1 with
      | some r₁ =>
        (readItems close r₁.1).bind fun (ts, r₂) => some (t :: ts, r.trans (r₁.trans r₂))
      | none => (expect (.symbol close) r.1).map fun r₁ => ([t], r.trans r₁)
termination_by 12 * ls.length + 9

end

/-- The tree of lexemes that are one expression. -/
def treeOf? (ls : List Lexeme) : Option Tree :=
  (readTest ls).bind fun (t, r) => if r.1.isEmpty then some t else none

/-- **The tree of a text**, if all of it is one expression. -/
def read? (text : String) : Option Tree :=
  (lex text.toList).bind treeOf?

/-! ### Looking at the next lexeme -/

theorem expect_eq_some {x : Lexeme} {ls : List Lexeme} {r : Left ls} (h : expect x ls = some r) :
    ls = x :: r.1 := by
  cases ls with
  | nil => cases h
  | cons y rest =>
    rw [expect, Option.ite_none_right_eq_some] at h
    obtain ⟨rfl, heq⟩ := h
    obtain rfl := Option.some.inj heq
    rfl

theorem exists_expect {x : Lexeme} {ls rest : List Lexeme} (h : ls = x :: rest) :
    ∃ r : Left ls, expect x ls = some r ∧ r.1 = rest := by
  subst h
  exact ⟨.tail x rest, if_pos rfl, rfl⟩

theorem expect_append {x : Lexeme} {ls rest : List Lexeme} (h : expect x ls = none)
    (hrest : ls = [] → expect x rest = none) : expect x (ls ++ rest) = none := by
  cases ls with
  | nil => exact hrest rfl
  | cons y ls =>
    have hne : y ≠ x := by simpa [expect] using h
    exact if_neg hne

theorem operator?_eq_some {level : Strength} {ls : List Lexeme} {op : BinaryOp} {r : Left ls}
    (h : operator? level ls = some (op, r)) :
    ∃ s, ls = .symbol s :: r.1 ∧ s.operator? level = some op := by
  unfold operator? at h
  split at h
  case h_1 s rest =>
    obtain ⟨op', hop, heq⟩ := Option.map_eq_some_iff.mp h
    obtain ⟨rfl, rfl⟩ := Prod.mk.inj heq
    exact ⟨s, rfl, hop⟩
  case h_2 => cases h

theorem exists_operator? {level : Strength} {ls rest : List Lexeme} {s : Symbol} {op : BinaryOp}
    (h : ls = .symbol s :: rest) (hop : s.operator? level = some op) :
    ∃ r : Left ls, operator? level ls = some (op, r) ∧ r.1 = rest := by
  subst h
  exact ⟨.tail _ rest, by simp [operator?, hop], rfl⟩

theorem operator?_append {level : Strength} {ls rest : List Lexeme} (h : operator? level ls = none)
    (hrest : ls = [] → operator? level rest = none) : operator? level (ls ++ rest) = none := by
  cases ls with
  | nil => exact hrest rfl
  | cons x ls =>
    cases x with
    | symbol s => simpa [operator?] using h
    | _ => rfl

theorem sign?_eq_some {ls : List Lexeme} {op : UnaryOp} {r : Left ls}
    (h : sign? ls = some (op, r)) :
    ∃ s, ls = .symbol s :: r.1 ∧ s.sign? = some op := by
  unfold sign? at h
  split at h
  case h_1 s rest =>
    obtain ⟨op', hop, heq⟩ := Option.map_eq_some_iff.mp h
    obtain ⟨rfl, rfl⟩ := Prod.mk.inj heq
    exact ⟨s, rfl, hop⟩
  case h_2 => cases h

theorem name?_eq_some {ls : List Lexeme} {n : String} {r : Left ls} (h : name? ls = some (n, r)) :
    ls = .name n :: r.1 := by
  unfold name? at h
  split at h
  case h_1 n' rest =>
    obtain ⟨rfl, rfl⟩ := Prod.mk.inj (Option.some.inj h)
    rfl
  case h_2 => cases h

/-! ### One rule of the grammar at a time -/

/-- The result is `a`, with the lexemes `rest` left. -/
def Gives {α : Type} {ls : List Lexeme} (o : Option (α × Left ls)) (a : α)
    (rest : List Lexeme) : Prop :=
  ∃ r, o = some (a, r) ∧ r.1 = rest

/-- Going on behind `t` with the operators of level `n` gives `u`. -/
def GoesOn (n : Nat) (t : Tree) (ls : List Lexeme) (u : Tree) (rest : List Lexeme) : Prop :=
  ∀ ⦃ls₀ : List Lexeme⦄ (r : Left ls₀), r.1 = ls → Gives (readInfix n t r) u rest

/-- Going on behind `t` with calls, attributes and subscripts gives `u`. -/
def Trails (t : Tree) (ls : List Lexeme) (u : Tree) (rest : List Lexeme) : Prop :=
  ∀ ⦃ls₀ : List Lexeme⦄ (r : Left ls₀), r.1 = ls → Gives (readTrailers t r) u rest

variable {ls rest r₁ r₂ r₃ : List Lexeme} {t u v c : Tree} {s : Symbol} {op : BinaryOp} {n : Nat}

theorem gives_test (h : Gives (readComparison ls) t rest) (hif : expect .if rest = none) :
    Gives (readTest ls) t rest := by
  obtain ⟨r, h, rfl⟩ := h
  refine ⟨r, ?_, rfl⟩
  rw [readTest, h]
  simp only [Option.bind_some]
  rw [hif]

theorem gives_test_choice (h : Gives (readComparison ls) t (.if :: r₁))
    (hc : Gives (readComparison r₁) c (.else :: r₂)) (hu : Gives (readTest r₂) u rest) :
    Gives (readTest ls) (.conditional c t u) rest := by
  obtain ⟨r, h, hr⟩ := h
  obtain ⟨a, hif, rfl⟩ := exists_expect hr
  obtain ⟨b, hc, hb⟩ := hc
  obtain ⟨d, helse, rfl⟩ := exists_expect hb
  obtain ⟨e, hu, rfl⟩ := hu
  refine ⟨r.trans (a.trans (b.trans (d.trans e))), ?_, rfl⟩
  rw [readTest, h]
  simp only [Option.bind_some]
  rw [hif]
  simp only [hc, helse, hu, Option.bind_some]

theorem gives_comparison (h : Gives (readLevel 2 ls) t rest)
    (hop : operator? .comparison rest = none) : Gives (readComparison ls) t rest := by
  obtain ⟨r, h, rfl⟩ := h
  refine ⟨r, ?_, rfl⟩
  rw [readComparison, h]
  simp only [Option.bind_some]
  rw [hop]

theorem gives_comparison_step (h : Gives (readLevel 2 ls) t (.symbol s :: r₁))
    (hs : s.operator? .comparison = some op) (hu : Gives (readLevel 2 r₁) u rest) :
    Gives (readComparison ls) (.binary op t u) rest := by
  obtain ⟨r, h, hr⟩ := h
  obtain ⟨a, hop, rfl⟩ := exists_operator? hr hs
  obtain ⟨b, hu, rfl⟩ := hu
  refine ⟨r.trans (a.trans b), ?_, rfl⟩
  rw [readComparison, h]
  simp only [Option.bind_some]
  rw [hop]
  simp only [hu, Option.bind_some]

theorem gives_level_zero (h : Gives (readUnary ls) t rest) : Gives (readLevel 0 ls) t rest := by
  rwa [readLevel]

theorem gives_level_succ (h : Gives (readLevel n ls) t r₁) (hu : GoesOn n t r₁ u rest) :
    Gives (readLevel (n + 1) ls) u rest := by
  obtain ⟨r, h, hr⟩ := h
  rw [readLevel, h]
  exact hu r hr

theorem goesOn_stop (hop : operator? (leftLevel n) ls = none) : GoesOn n t ls t ls := by
  rintro ls₀ r rfl
  refine ⟨r, ?_, rfl⟩
  rw [readInfix, hop]

theorem goesOn_step (hs : s.operator? (leftLevel n) = some op) (hu : Gives (readLevel n r₁) u r₂)
    (hv : GoesOn n (.binary op t u) r₂ v rest) : GoesOn n t (.symbol s :: r₁) v rest := by
  intro ls₀ r hr
  obtain ⟨a, hop, rfl⟩ := exists_operator? hr hs
  obtain ⟨b, hu, rfl⟩ := hu
  rw [readInfix, hop]
  simp only [hu, Option.bind_some]
  exact hv (r.trans (a.trans b)) rfl

theorem gives_unary (h : Gives (readPower ls) t rest) (hsign : sign? ls = none) :
    Gives (readUnary ls) t rest := by
  rw [readUnary, hsign]
  exact h

theorem gives_unary_sign {op : UnaryOp} (hs : s.sign? = some op) (h : Gives (readUnary ls) t rest) :
    Gives (readUnary (.symbol s :: ls)) (.unary op t) rest := by
  obtain ⟨r, h, rfl⟩ := h
  refine ⟨(Left.tail _ ls).trans r, ?_, rfl⟩
  rw [readUnary, sign?, hs]
  simp only [Option.map_some]
  exact congrArg (Option.bind · _) h

theorem gives_power (h : Gives (readPrimary ls) t rest) (hop : operator? .power rest = none) :
    Gives (readPower ls) t rest := by
  obtain ⟨r, h, rfl⟩ := h
  refine ⟨r, ?_, rfl⟩
  rw [readPower, h]
  simp only [Option.bind_some]
  rw [hop]

theorem gives_power_step (h : Gives (readPrimary ls) t (.symbol s :: r₁))
    (hs : s.operator? .power = some op) (hu : Gives (readUnary r₁) u rest) :
    Gives (readPower ls) (.binary op t u) rest := by
  obtain ⟨r, h, hr⟩ := h
  obtain ⟨a, hop, rfl⟩ := exists_operator? hr hs
  obtain ⟨b, hu, rfl⟩ := hu
  refine ⟨r.trans (a.trans b), ?_, rfl⟩
  rw [readPower, h]
  simp only [Option.bind_some]
  rw [hop]
  simp only [hu, Option.bind_some]

theorem gives_primary (h : Gives (readAtom ls) t r₁) (hu : Trails t r₁ u rest) :
    Gives (readPrimary ls) u rest := by
  obtain ⟨r, h, hr⟩ := h
  rw [readPrimary, h]
  exact hu r hr

theorem trails_stop (hdot : expect (.symbol .dot) ls = none)
    (hcall : expect (.symbol .leftBracket) ls = none)
    (hindex : expect (.symbol .leftSquare) ls = none) : Trails t ls t ls := by
  rintro ls₀ r rfl
  refine ⟨r, ?_, rfl⟩
  rw [readTrailers, hdot]
  simp only [hcall, hindex]

theorem trails_attribute {name : String} (hv : Trails (.attribute t name) r₁ v rest) :
    Trails t (.symbol .dot :: .name name :: r₁) v rest := by
  intro ls₀ r hr
  obtain ⟨a, hdot, ha⟩ := exists_expect hr
  obtain ⟨b, hname, hb⟩ : ∃ b, name? a.1 = some (name, b) ∧ b.1 = r₁ := by
    rw [ha]
    exact ⟨.tail _ r₁, rfl, rfl⟩
  rw [readTrailers, hdot]
  simp only [hname, Option.bind_some]
  exact hv (r.trans (a.trans b)) hb

theorem trails_call {args : List Tree} (hargs : Gives (readItems .rightBracket r₁) args r₂)
    (hv : Trails (.call t args) r₂ v rest) : Trails t (.symbol .leftBracket :: r₁) v rest := by
  intro ls₀ r hr
  obtain ⟨a, hcall, rfl⟩ := exists_expect hr
  obtain ⟨b, hargs, rfl⟩ := hargs
  have hdot : expect (.symbol .dot) r.1 = none := by rw [hr]; rfl
  rw [readTrailers, hdot]
  simp only [hcall, hargs, Option.bind_some]
  exact hv (r.trans (a.trans b)) rfl

theorem trails_subscript (hu : Gives (readTest r₁) u (.symbol .rightSquare :: r₂))
    (hv : Trails (.subscript t u) r₂ v rest) : Trails t (.symbol .leftSquare :: r₁) v rest := by
  intro ls₀ r hr
  obtain ⟨a, hindex, rfl⟩ := exists_expect hr
  obtain ⟨b, hu, hb⟩ := hu
  obtain ⟨d, hclose, rfl⟩ := exists_expect hb
  have hdot : expect (.symbol .dot) r.1 = none := by rw [hr]; rfl
  have hcall : expect (.symbol .leftBracket) r.1 = none := by rw [hr]; rfl
  rw [readTrailers, hdot]
  simp only [hcall, hindex, hu, hclose, Option.bind_some]
  exact hv (r.trans (a.trans (b.trans d))) rfl

theorem gives_atom_brackets (h : Gives (readTest ls) t (.symbol .rightBracket :: rest)) :
    Gives (readAtom (.symbol .leftBracket :: ls)) t rest := by
  obtain ⟨r, h, hr⟩ := h
  obtain ⟨a, hclose, rfl⟩ := exists_expect hr
  refine ⟨(Left.tail _ ls).trans (r.trans a), ?_, rfl⟩
  rw [readAtom, h]
  simp only [hclose, Option.bind_some]

theorem gives_atom_list {ts : List Tree} (h : Gives (readItems .rightSquare ls) ts rest) :
    Gives (readAtom (.symbol .leftSquare :: ls)) (.list ts) rest := by
  obtain ⟨r, h, rfl⟩ := h
  refine ⟨(Left.tail _ ls).trans r, ?_, rfl⟩
  rw [readAtom, h]
  simp only [Option.bind_some]

theorem gives_items_nil : Gives (readItems s (.symbol s :: rest)) [] rest := by
  refine ⟨.tail _ rest, ?_, rfl⟩
  rw [readItems, expect, if_pos rfl]

theorem gives_items_last (hopen : expect (.symbol s) ls = none)
    (h : Gives (readTest ls) t (.symbol s :: rest)) (hs : s ≠ .comma) :
    Gives (readItems s ls) [t] rest := by
  obtain ⟨r, h, hr⟩ := h
  obtain ⟨a, hclose, rfl⟩ := exists_expect hr
  have hcomma : expect (.symbol .comma) r.1 = none := by
    rw [hr, expect, if_neg (by simpa using hs)]
  refine ⟨r.trans a, ?_, rfl⟩
  rw [readItems, hopen]
  simp only [h, Option.bind_some]
  rw [hcomma, hclose]
  rfl

theorem gives_items_cons {ts : List Tree} (hopen : expect (.symbol s) ls = none)
    (h : Gives (readTest ls) t (.symbol .comma :: r₁)) (hts : Gives (readItems s r₁) ts rest) :
    Gives (readItems s ls) (t :: ts) rest := by
  obtain ⟨r, h, hr⟩ := h
  obtain ⟨a, hcomma, rfl⟩ := exists_expect hr
  obtain ⟨b, hts, rfl⟩ := hts
  refine ⟨r.trans (a.trans b), ?_, rfl⟩
  rw [readItems, hopen]
  simp only [h, Option.bind_some]
  rw [hcomma]
  simp only [hts, Option.bind_some]

/-! ### What goes on with an expression -/

/-- The rank of the level that the lexeme goes on with an expression at; zero if on none. -/
def Lexeme.reach : Lexeme → Nat
  | .symbol .leftBracket | .symbol .leftSquare | .symbol .dot => Strength.atom.rank
  | .symbol .power => Strength.power.rank
  | .symbol .times | .symbol .over => Strength.multiplicative.rank
  | .symbol .plus | .symbol .minus => Strength.additive.rank
  | .symbol .eq | .symbol .ne | .symbol .lt | .symbol .gt | .symbol .le | .symbol .ge =>
    Strength.comparison.rank
  | .if => Strength.conditional.rank
  | _ => 0

/-- What comes next goes on with no expression of strength `σ` or more. -/
def Stops (σ : Strength) (ls : List Lexeme) : Prop :=
  ∀ x ∈ ls.head?, x.reach < σ.rank

theorem stops_nil (σ : Strength) : Stops σ [] := by
  intro x hx
  cases hx

theorem stops_cons {σ : Strength} {x : Lexeme} (h : x.reach < σ.rank) (ls : List Lexeme) :
    Stops σ (x :: ls) := by
  intro y hy
  obtain rfl : x = y := by simpa using hy
  exact h

theorem Stops.mono {σ τ : Strength} {ls : List Lexeme} (h : Stops σ ls) (hστ : σ.rank ≤ τ.rank) :
    Stops τ ls :=
  fun x hx => Nat.lt_of_lt_of_le (h x hx) hστ

/-- Nothing goes on with a sign, which stands in front. -/
theorem Stops.unary {ls : List Lexeme} (h : Stops .power ls) : Stops .unary ls := by
  intro x hx
  have hne : x.reach ≠ Strength.unary.rank := by
    cases x with
    | symbol s => cases s <;> decide
    | _ => simp [Lexeme.reach, Strength.rank]
  have hlt := h x hx
  simp only [Strength.rank] at hne hlt ⊢
  omega

theorem Stops.expect_eq_none {σ : Strength} {x : Lexeme} {ls : List Lexeme} (h : Stops σ ls)
    (hx : σ.rank ≤ x.reach) : expect x ls = none := by
  cases ls with
  | nil => rfl
  | cons y rest =>
    refine if_neg ?_
    rintro rfl
    exact absurd (h y rfl) (Nat.not_lt.mpr hx)

theorem reach_of_operator? {s : Symbol} {level : Strength} {op : BinaryOp}
    (h : s.operator? level = some op) : (Lexeme.symbol s).reach = level.rank := by
  revert h
  cases s <;> cases level <;> simp [Symbol.operator?, Lexeme.reach]

theorem Stops.operator?_eq_none {σ level : Strength} {ls : List Lexeme} (h : Stops σ ls)
    (hlevel : σ.rank ≤ level.rank) : operator? level ls = none := by
  cases hop : operator? level ls with
  | none => rfl
  | some p =>
    obtain ⟨s, hls, hs⟩ := operator?_eq_some hop
    have hlt := h (.symbol s) (by rw [hls]; rfl)
    rw [reach_of_operator? hs] at hlt
    omega

end ReportCompiler.Target
