import ReportCompiler.Proofs.Formula.Term

/-!
# The grammar of formulas, one rule at a time

What the parser does with tokens whose references are answered by a function, as rules: each says
what one level of the grammar finds and leaves when the levels below find and leave something.  The
recursion of the parser is opened here and nowhere else.

## Main definitions

* `Reading.answered` - a reading with its questions answered by a function.
* `Gives`, `GivesSome`, `GivesArgument` - what a part of the parser finds and leaves.
* `Percents`, `GoesOn`, `Arguments` - the same for its loops.

## Main results

* `Reading.run_of_answered` - answers by a function are answers by a resolver that never fails.
* `gives_unary_sign`, `goesOn_step`, `gives_group`, `gives_call`, … - the rules.
-/

namespace ReportCompiler.Formula

/-! ### Answered readings -/

/-- The reading with its questions answered by a function. -/
def Reading.answered {α : Type} (ρ : String → Expr) : Reading α → Except Fault α
  | .done a => .ok a
  | .fault why => .error why
  | .ask reference next => (next (ρ reference)).answered ρ

namespace Reading

variable {α β : Type} {ρ : String → Expr}

theorem answered_bind {r : Reading α} {f : α → Reading β} {a : α} (h : r.answered ρ = .ok a) :
    (r.bind f).answered ρ = (f a).answered ρ := by
  induction r with
  | done b =>
    obtain rfl := Except.ok.inj h
    rfl
  | fault why => cases h
  | ask reference next ih => exact ih _ h

theorem answered_bind_error {r : Reading α} {f : α → Reading β} {why : Fault}
    (h : r.answered ρ = .error why) : (r.bind f).answered ρ = .error why := by
  induction r with
  | done b => cases h
  | fault why' =>
    obtain rfl := Except.error.inj h
    rfl
  | ask reference next ih => exact ih _ h

/-- A resolver that answers by a function, without effects and without failing, leads to the same
result. -/
theorem run_of_answered {m : Type → Type} [Monad m] [LawfulMonad m] {r : Reading α} {a : α}
    (raise : Fault → m α) (h : r.answered ρ = .ok a) :
    r.run (fun reference => pure (ρ reference)) raise = pure a := by
  induction r with
  | done b => exact congrArg pure (Except.ok.inj h)
  | fault why => cases h
  | ask reference next ih =>
    rw [run, pure_bind]
    exact ih _ h

end Reading

/-! ### What is found and what is left -/

/-- The reading finds `a` and leaves the tokens `rest`. -/
def Gives {α : Type} {ts : List Token} (ρ : String → Expr) (r : Reading (α × Rest ts)) (a : α)
    (rest : List Token) : Prop :=
  ∃ left, r.answered ρ = .ok (a, left) ∧ left.1 = rest

/-- The reading finds an expression `e`, which it might not, and leaves the tokens `rest`. -/
def GivesSome {ts : List Token} (ρ : String → Expr) (r : Reading (Option (Expr × Rest ts)))
    (e : Expr) (rest : List Token) : Prop :=
  ∃ left, r.answered ρ = .ok (some (e, left)) ∧ left.1 = rest

/-- The tokens behind an argument, which may be empty. -/
def leftOver {ts : List Token} : Option (Expr × Rest ts) → List Token
  | none => ts
  | some p => p.2.1

theorem after_val {ts : List Token} (r : Rest ts) (arg : Option (Expr × Rest r.1)) :
    (r.after arg).1 = leftOver arg := by
  cases arg <;> rfl

/-- The tokens begin with an argument, perhaps an empty one, and `rest` is behind it. -/
def GivesArgument (ρ : String → Expr) (ts : List Token) (arg : Option Expr) (rest : List Token) :
    Prop :=
  ∃ found, (parseExpression ts).answered ρ = .ok found ∧ found.map Prod.fst = arg ∧
    leftOver found = rest

/-- Percent signs behind `e` make it `u`. -/
def Percents (ρ : String → Expr) (e : Expr) (ts : List Token) (u : Expr) (rest : List Token) :
    Prop :=
  ∀ ⦃ts₀ : List Token⦄ (r : Rest ts₀), r.1 = ts → Gives ρ (parsePercents e r) u rest

/-- Infix operators of a level behind `e` make it `u`. -/
def GoesOn (ρ : String → Expr) (n : Nat) (e : Expr) (ts : List Token) (u : Expr)
    (rest : List Token) : Prop :=
  ∀ ⦃ts₀ : List Token⦄ (r : Rest ts₀), r.1 = ts → Gives ρ (parseInfix n e r) u rest

/-- The arguments from here on make the call `e`, with those before them. -/
def Arguments (ρ : String → Expr) (f : Function) (opener : String) (args : List (Option Expr))
    (ts : List Token) (e : Expr) (rest : List Token) : Prop :=
  ∀ ⦃ts₀ : List Token⦄ (r : Rest ts₀), r.1 = ts → Gives ρ (parseArguments f opener args r) e rest

variable {ρ : String → Expr} {t : Token} {ts rest r₁ r₂ : List Token} {e u v : Expr} {n : Nat}

theorem next?_cons (ht : t.kind ≠ .whitespace) (rest : List Token) :
    next? (t :: rest) = some (t, ⟨rest, Nat.lt_succ_self _⟩) := by
  rw [next?, if_neg ht]

theorem exists_next? (h : ts = t :: rest) (ht : t.kind ≠ .whitespace) :
    ∃ r, next? ts = some (t, r) ∧ r.1 = rest := by
  subst h
  exact ⟨_, next?_cons ht rest, rfl⟩

theorem scalar_eq_done (h : e.isList = false) : scalar e = .done e := by
  cases e <;> first | rfl | cases h

theorem grouped_eq_group (h : e.isList = false) : grouped e = .group e := by
  cases e <;> first | rfl | cases h

/-! ### Percent signs -/

theorem percents_stop (h : ∀ t r, next? ts = some (t, r) → t.kind ≠ .postfixOp) :
    Percents ρ e ts e ts := by
  rintro ts₀ r rfl
  refine ⟨r, ?_, rfl⟩
  rw [parsePercents]
  split
  case h_1 => rfl
  case h_2 t r₁ hnext =>
    rw [if_neg (h t r₁ hnext)]
    rfl

theorem percents_step (ht : t.kind = .postfixOp) (he : e.isList = false)
    (h : Percents ρ (.percent e) r₁ u rest) : Percents ρ e (t :: r₁) u rest := by
  intro ts₀ r hr
  obtain ⟨a, hnext, rfl⟩ := exists_next? hr (by simp [ht])
  rw [parsePercents, hnext]
  simp only [ht, if_true, scalar_eq_done he, Reading.done_bind]
  exact h (r.trans a) rfl

/-! ### Infix operators -/

theorem gives_level_zero (h : Gives ρ (parseUnary ts) e r₁) (hu : Percents ρ e r₁ u rest) :
    Gives ρ (parseLevel 0 ts) u rest := by
  obtain ⟨r, h, hr⟩ := h
  rw [parseLevel, Gives, Reading.answered_bind h]
  exact hu r hr

theorem gives_level_succ (h : Gives ρ (parseLevel n ts) e r₁) (hu : GoesOn ρ n e r₁ u rest) :
    Gives ρ (parseLevel (n + 1) ts) u rest := by
  obtain ⟨r, h, hr⟩ := h
  rw [parseLevel, Gives, Reading.answered_bind h]
  exact hu r hr

theorem goesOn_stop
    (h : ∀ t r op, next? ts = some (t, r) → t.binaryOp? = some op → op.precedence + n ≠ 5) :
    GoesOn ρ n e ts e ts := by
  rintro ts₀ r rfl
  refine ⟨r, ?_, rfl⟩
  rw [parseInfix]
  split
  case h_1 => rfl
  case h_2 t r₁ hnext =>
    split
    case h_1 => rfl
    case h_2 op hop =>
      rw [if_neg fun hlevel => h t r₁ op hnext hop (BinaryOp.mem_level.mp hlevel)]
      rfl

theorem goesOn_step {op : BinaryOp} (ht : t.binaryOp? = some op) (hn : op.precedence + n = 5)
    (hu : Gives ρ (parseLevel n r₁) u r₂) (he : e.isList = false) (hlist : u.isList = false)
    (hv : GoesOn ρ n (.binary op e u) r₂ v rest) : GoesOn ρ n e (t :: r₁) v rest := by
  intro ts₀ r hr
  have hsolid : t.kind ≠ .whitespace := by
    intro hblank
    simp [Token.binaryOp?, hblank] at ht
  obtain ⟨a, hnext, rfl⟩ := exists_next? hr hsolid
  obtain ⟨b, hu, rfl⟩ := hu
  rw [parseInfix, hnext]
  simp only [ht, BinaryOp.mem_level.mpr hn, if_true]
  rw [Gives, Reading.answered_bind hu]
  simp only [scalar_eq_done he, scalar_eq_done hlist, Reading.done_bind]
  exact hv (r.trans (a.trans b)) rfl

/-! ### Signs -/

theorem gives_unary_sign {op : UnaryOp} (ht : t.kind = .prefixOp)
    (hop : UnaryOp.ofSymbol? t.value = some op) (h : Gives ρ (parseUnary ts) e rest)
    (he : e.isList = false) : Gives ρ (parseUnary (t :: ts)) (.unary op e) rest := by
  obtain ⟨r, h, rfl⟩ := h
  refine ⟨Rest.trans ⟨ts, Nat.lt_succ_self _⟩ r, ?_, rfl⟩
  rw [parseUnary, next?_cons (by simp [ht])]
  simp only [ht, if_true, hop]
  rw [Reading.answered_bind h]
  simp only [scalar_eq_done he, Reading.done_bind]
  rfl

/-- Operands, brackets and calls begin with no sign. -/
theorem gives_unary (h : Gives ρ (parsePrimary ts) e rest) : Gives ρ (parseUnary ts) e rest := by
  rw [parseUnary]
  split
  case h_1 => exact h
  case h_2 t r hnext =>
    -- something was found, and a sign is not the beginning of it
    have ht : t.kind ≠ .prefixOp := by
      intro ht
      obtain ⟨left, h, -⟩ := h
      rw [parsePrimary, hnext] at h
      simp only [ht] at h
      split at h <;> cases h
    rw [if_neg ht]
    exact h

/-! ### Operands, brackets and calls -/

/-- The expression that an operand of a sort becomes, unless it is an error value. -/
def operandExprOf? (ρ : String → Expr) (sort : TokenSubkind) (s : String) : Option Expr :=
  match sort with
  | .range => some (ρ s)
  | .text => some (.text (textLiteral s))
  | .number => some (.number s)
  | .logical => some (.bool (Text.sameFold s "TRUE"))
  | _ => none

theorem gives_operand (ht : t.kind = .operand)
    (h : operandExprOf? ρ t.subkind t.value = some e) :
    Gives ρ (parsePrimary (t :: ts)) e ts := by
  refine ⟨⟨ts, Nat.lt_succ_self _⟩, ?_, rfl⟩
  rw [parsePrimary, next?_cons (by simp [ht])]
  unfold operandExprOf? at h
  split at h
  case h_5 => cases h
  all_goals
    rename_i hs
    obtain rfl := Option.some.inj h
    simp only [ht, hs]
    rfl

theorem gives_group {opener closer : Token} (hopen : opener.is .paren .opener)
    (hclose : closer.is .paren .closer)
    (h : GivesSome ρ (parseExpression ts) e (closer :: rest)) :
    Gives ρ (parsePrimary (opener :: ts)) (grouped e) rest := by
  obtain ⟨r, h, hr⟩ := h
  simp only [Token.is, Bool.and_eq_true, decide_eq_true_eq] at hopen
  have hsolid : closer.kind ≠ .whitespace := by
    simp only [Token.is, Bool.and_eq_true, decide_eq_true_eq] at hclose
    simp [hclose.1]
  obtain ⟨a, hnext, rfl⟩ := exists_next? hr hsolid
  refine ⟨Rest.trans ⟨ts, Nat.lt_succ_self _⟩ (r.trans a), ?_, rfl⟩
  rw [parsePrimary, next?_cons (by simp [hopen.1])]
  simp only [hopen.1, hopen.2]
  rw [Reading.answered_bind h]
  simp only [hnext, hclose, if_true]
  rfl

theorem gives_call {opener : Token} {f : Function} (hopen : opener.is .func .opener)
    (hf : Function.ofName? opener.value = some f)
    (h : Arguments ρ f opener.value [] ts e rest) :
    Gives ρ (parsePrimary (opener :: ts)) e rest := by
  simp only [Token.is, Bool.and_eq_true, decide_eq_true_eq] at hopen
  rw [parsePrimary, next?_cons (by simp [hopen.1])]
  simp only [hopen.1, hopen.2, hf]
  exact h ⟨ts, Nat.lt_succ_self _⟩ rfl

/-! ### Arguments -/

theorem GivesSome.argument (h : GivesSome ρ (parseExpression ts) e rest) :
    GivesArgument ρ ts (some e) rest := by
  obtain ⟨r, h, rfl⟩ := h
  exact ⟨some (e, r), h, rfl, rfl⟩

/-- In front of what ends an expression, an argument is empty. -/
theorem givesArgument_none (hsolid : t.kind ≠ .whitespace) (ht : t.endsExpression) :
    GivesArgument ρ (t :: ts) none (t :: ts) := by
  refine ⟨none, ?_, rfl, rfl⟩
  rw [parseExpression, next?_cons hsolid]
  simp only [ht, if_true]
  rfl

theorem arguments_step {f : Function} {opener : String} {args : List (Option Expr)}
    {arg : Option Expr} (ht : t.isArgSep) (harg : GivesArgument ρ ts arg (t :: r₁))
    (h : Arguments ρ f opener (args ++ [arg]) r₁ e rest) :
    Arguments ρ f opener args ts e rest := by
  rintro ts₀ r rfl
  obtain ⟨b, hread, rfl, hb⟩ := harg
  have hsolid : t.kind ≠ .whitespace := by
    simp only [Token.isArgSep, Bool.and_eq_true, decide_eq_true_eq] at ht
    simp [ht.1]
  obtain ⟨a, hnext, rfl⟩ := exists_next? ((after_val r b).trans hb) hsolid
  rw [parseArguments, Gives, Reading.answered_bind hread]
  simp only [hnext, ht, if_true]
  exact h ((r.after b).trans a) rfl

theorem arguments_last {f : Function} {opener : String} {args : List (Option Expr)}
    {arg : Option Expr} (ht : t.is .func .closer) (harg : GivesArgument ρ ts arg (t :: rest))
    (hf : f.apply (args ++ [arg]) = .ok e) : Arguments ρ f opener args ts e rest := by
  rintro ts₀ r rfl
  obtain ⟨b, hread, rfl, hb⟩ := harg
  have hkind : t.kind = .func := by
    simp only [Token.is, Bool.and_eq_true, decide_eq_true_eq] at ht
    exact ht.1
  obtain ⟨a, hnext, rfl⟩ := exists_next? ((after_val r b).trans hb) (by simp [hkind])
  refine ⟨(r.after b).trans a, ?_, rfl⟩
  have hsep : t.isArgSep = false := by simp [Token.isArgSep, hkind]
  rw [parseArguments, Reading.answered_bind hread]
  simp only [hnext, hsep, ht, if_true, hf]
  rfl

/-! ### Whole expressions -/

/-- What ends an expression begins none. -/
theorem parsePrimary_fault (h : ∀ t r, next? ts = some (t, r) → t.endsExpression) :
    ∃ why, (parsePrimary ts).answered ρ = .error why := by
  rw [parsePrimary]
  split
  case h_1 => exact ⟨_, rfl⟩
  case h_2 t r hnext =>
    have hends := h t r hnext
    split
    case h_7 =>
      rw [hends, Bool.true_or, if_pos rfl]
      exact ⟨_, rfl⟩
    all_goals
      rename_i hkind hsubkind
      simp [Token.endsExpression, Token.is, hkind, hsubkind] at hends

theorem parseLevel_fault (h : ∀ t r, next? ts = some (t, r) → t.endsExpression) (n : Nat) :
    ∃ why, (parseLevel n ts).answered ρ = .error why := by
  induction n with
  | zero =>
    obtain ⟨why, hwhy⟩ := parsePrimary_fault (ρ := ρ) h
    have hunary : parseUnary ts = parsePrimary ts := by
      rw [parseUnary]
      split
      case h_1 => rfl
      case h_2 t r hnext =>
        refine if_neg fun hkind => ?_
        have hends := h t r hnext
        simp [Token.endsExpression, Token.is, hkind] at hends
    refine ⟨why, ?_⟩
    rw [parseLevel, hunary]
    exact Reading.answered_bind_error hwhy
  | succ n ih =>
    obtain ⟨why, hwhy⟩ := ih
    refine ⟨why, ?_⟩
    rw [parseLevel]
    exact Reading.answered_bind_error hwhy

theorem givesSome_expression (h : Gives ρ (parseLevel 5 ts) e rest) :
    GivesSome ρ (parseExpression ts) e rest := by
  obtain ⟨r, h, rfl⟩ := h
  -- an expression was found, so what comes first does not end one
  have hbegins : ¬ ∀ t r, next? ts = some (t, r) → t.endsExpression := by
    intro hends
    obtain ⟨why, hwhy⟩ := parseLevel_fault (ρ := ρ) hends 5
    rw [h] at hwhy
    cases hwhy
  refine ⟨r, ?_, rfl⟩
  rw [parseExpression]
  split
  case h_1 hnext =>
    refine absurd (fun t r h => ?_) hbegins
    rw [hnext] at h
    cases h
  case h_2 t r' hnext =>
    rw [if_neg fun hends => hbegins fun t₁ r₁ h₁ => ?_, Reading.answered_bind h]
    · rfl
    · rw [hnext] at h₁
      obtain ⟨rfl, -⟩ := Prod.mk.inj (Option.some.inj h₁)
      exact hends

/-- Tokens that are one expression, and nothing behind it, are a formula. -/
theorem parseFormula_answered (h : GivesSome ρ (parseExpression ts) e []) (he : e.isList = false) :
    (parseFormula ts).answered ρ = .ok e := by
  obtain ⟨r, h, hr⟩ := h
  have hnext : next? r.1 = none := by
    rw [hr]
    rfl
  rw [parseFormula, Reading.answered_bind h]
  simp only [hnext, scalar_eq_done he]
  rfl

/-! ### What goes on with an expression -/

/-- How strongly the token binds what stands in front of it; zero if it does not go on with it. -/
def Token.reach (t : Token) : Nat :=
  if t.kind = .postfixOp then 6 else (t.binaryOp?.map BinaryOp.precedence).getD 0

/-- What comes next goes on with nothing that binds as strongly as `k` or more. -/
def Stops (k : Nat) (ts : List Token) : Prop :=
  ∀ t r, next? ts = some (t, r) → t.reach < k

theorem stops_nil (k : Nat) : Stops k [] := by
  intro t r h
  cases h

theorem stops_cons {k : Nat} (hsolid : t.kind ≠ .whitespace) (h : t.reach < k) (rest : List Token) :
    Stops k (t :: rest) := by
  intro u r hnext
  rw [next?_cons hsolid] at hnext
  obtain ⟨rfl, -⟩ := Prod.mk.inj (Option.some.inj hnext)
  exact h

theorem Stops.mono {k l : Nat} (h : Stops k ts) (hkl : k ≤ l) : Stops l ts :=
  fun t r hnext => Nat.lt_of_lt_of_le (h t r hnext) hkl

theorem Stops.percents (h : Stops 6 ts) : Percents ρ e ts e ts := by
  refine percents_stop fun t r hnext hkind => ?_
  have hreach := h t r hnext
  simp [Token.reach, hkind] at hreach

theorem Stops.goesOn {k : Nat} (h : Stops k ts) (hk : k + n ≤ 5) : GoesOn ρ n e ts e ts := by
  refine goesOn_stop fun t r op hnext hop => ?_
  have hreach := h t r hnext
  have hkind : t.kind ≠ .postfixOp := by
    intro hkind
    simp [Token.binaryOp?, hkind] at hop
  rw [Token.reach, if_neg hkind, hop, Option.map_some, Option.getD_some] at hreach
  omega

end ReportCompiler.Formula
