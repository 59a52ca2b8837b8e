import ReportCompiler.Proofs.Formula.Operand
import ReportCompiler.Proofs.Formula.Rules

/-!
# The tokens of a formula read as its expression

The parser finds in the tokens of a tree the expression of the tree, whatever follows that does not
go on with it.  A tree is read by the level of the grammar that its strength belongs to, and by
every looser one.

Infix operators group to the left by a loop.  A tree of one of their levels is therefore not just
found: the loop stands behind it with the tree as its left operand, and goes on from there.

## Main definitions

* `Written ρ k ts e` - on the level of strength `k` the tokens `ts` are read as `e`.

## Main results

* `Written.weaken` - what is read on a level is read on every looser one.
* `Term.written_tokens` - **the tokens of a tree are read as its expression.**
-/

namespace ReportCompiler.Formula

variable {ρ : String → Expr} {ts us : List Token} {e u : Expr} {k l n : Nat}

/-! ### Levels -/

/-- The tokens bring the loop of infix operators of level `n` to the point where `e` is its left
operand. -/
def WrittenLeft (ρ : String → Expr) (n : Nat) (ts : List Token) (e : Expr) : Prop :=
  ∀ ⦃rest u rest'⦄, Stops (6 - n) rest → GoesOn ρ n e rest u rest' →
    Gives ρ (parseLevel (n + 1) (ts ++ rest)) u rest'

/-- On the level of strength `k`, the tokens are read as `e`: operands, brackets and calls have
strength 8, signs 7, percent signs 6, and infix operators their precedence. -/
def Written (ρ : String → Expr) : Nat → List Token → Expr → Prop
  | 8, ts, e => ∀ rest, Gives ρ (parsePrimary (ts ++ rest)) e rest
  | 7, ts, e => ∀ rest, Gives ρ (parseUnary (ts ++ rest)) e rest
  | 6, ts, e =>
    ∀ ⦃rest u rest'⦄, Percents ρ e rest u rest' → Gives ρ (parseLevel 0 (ts ++ rest)) u rest'
  | k, ts, e => WrittenLeft ρ (5 - k) ts e

theorem written_iff_left (hk : k ≤ 5) : Written ρ k ts e ↔ WrittenLeft ρ (5 - k) ts e := by
  unfold Written
  split <;> first | omega | rfl

/-- A level of infix operators finds what is read on the level below, up to where it stops. -/
theorem Written.level (h : Written ρ (6 - n) ts e) (hn : n ≤ 5) {rest : List Token}
    (hrest : Stops (6 - n) rest) : Gives ρ (parseLevel n (ts ++ rest)) e rest := by
  cases n with
  | zero => exact h (Stops.percents hrest)
  | succ m =>
    have hm : 5 - (6 - (m + 1)) = m := by omega
    have hleft := (written_iff_left (by omega)).mp h
    rw [hm] at hleft
    exact hleft (hrest.mono (by omega)) (hrest.goesOn (by omega))

theorem Written.weaken_succ (hk : k ≤ 7) (h : Written ρ (k + 1) ts e) : Written ρ k ts e := by
  have hcases : k = 7 ∨ k = 6 ∨ k ≤ 5 := by omega
  rcases hcases with rfl | rfl | hk
  · exact fun rest => gives_unary (h rest)
  · exact fun rest u rest' hu => gives_level_zero (h rest) hu
  · rw [written_iff_left hk]
    intro rest u rest' hrest hu
    have hlevel : 6 - (5 - k) = k + 1 := by omega
    have hread : Gives ρ (parseLevel (5 - k) (ts ++ rest)) e rest :=
      Written.level (by rwa [hlevel]) (by omega) hrest
    exact gives_level_succ hread hu

/-- What is read on a level is read on every looser one. -/
theorem Written.weaken (hkl : k ≤ l) (hl : l ≤ 8) (h : Written ρ l ts e) : Written ρ k ts e := by
  induction hkl with
  | refl => exact h
  | step _ ih => exact ih (by omega) (h.weaken_succ (by omega))

/-- An expression is found up to a token that goes on with nothing. -/
theorem Written.expression (h : Written ρ k ts e) (hk : 1 ≤ k) (hk' : k ≤ 8) {rest : List Token}
    (hrest : Stops 1 rest) : GivesSome ρ (parseExpression (ts ++ rest)) e rest :=
  givesSome_expression (Written.level (n := 5) (h.weaken hk hk') (by omega) hrest)

/-! ### Constructs -/

theorem written_operand {t : Token} (ht : t.kind = .operand)
    (h : operandExprOf? ρ t.subkind t.value = some e) : Written ρ 8 [t] e :=
  fun _ => gives_operand ht h

theorem kind_of_endsExpression {t : Token} (h : t.endsExpression) :
    t.kind = .sep ∨ t.kind = .func ∨ t.kind = .paren := by
  simp only [Token.endsExpression, Token.is, Bool.or_eq_true, Bool.and_eq_true,
    decide_eq_true_eq] at h
  rcases h with (hsep | hfunc) | hparen
  · exact .inl hsep
  · exact .inr (.inl hfunc.1)
  · exact .inr (.inr hparen.1)

/-- What ends an expression goes on with nothing that stands in front of it. -/
theorem stops_of_endsExpression {t : Token} (h : t.endsExpression) (rest : List Token) :
    Stops 1 (t :: rest) := by
  rcases kind_of_endsExpression h with hkind | hkind | hkind
  all_goals
    refine stops_cons (by simp [hkind]) ?_ rest
    simp [Token.reach, Token.binaryOp?, hkind]

theorem Written.group {o c : Token} (ho : o.is .paren .opener) (h : Written ρ k ts e) (hk : 1 ≤ k)
    (hk' : k ≤ 8) (hc : c.is .paren .closer) : Written ρ 8 (o :: ts ++ [c]) (grouped e) := by
  intro rest
  have hends : c.endsExpression := by simp [Token.endsExpression, hc]
  have hinner := h.expression hk hk' (stops_of_endsExpression hends rest)
  rw [List.append_assoc]
  exact gives_group ho hc hinner

theorem Written.sign {t : Token} {op : UnaryOp} (ht : t.kind = .prefixOp)
    (hop : UnaryOp.ofSymbol? t.value = some op) (h : Written ρ 7 ts e) (he : e.isList = false) :
    Written ρ 7 (t :: ts) (.unary op e) :=
  fun rest => gives_unary_sign ht hop (h rest) he

theorem Written.percent {t : Token} (h : Written ρ 6 ts e) (ht : t.kind = .postfixOp)
    (he : e.isList = false) : Written ρ 6 (ts ++ [t]) (.percent e) := by
  intro rest u rest' hu
  rw [List.append_assoc]
  exact h (percents_step ht he hu)

theorem ofSymbol?_symbol (op : UnaryOp) : UnaryOp.ofSymbol? op.symbol = some op := by
  cases op <;> rfl

theorem binaryOp?_symbol (op : BinaryOp) :
    Token.binaryOp? ⟨.infixOp, .plain, op.symbol⟩ = some op := by
  rw [Token.binaryOp?, if_pos rfl, BinaryOp.ofSymbol?_symbol]

theorem kind_of_binaryOp? {t : Token} {op : BinaryOp} (h : t.binaryOp? = some op) :
    t.kind = .infixOp := by
  refine Decidable.byContradiction fun hkind => ?_
  simp [Token.binaryOp?, hkind] at h

theorem precedence_pos (op : BinaryOp) : 1 ≤ op.precedence := by
  cases op <;> decide

theorem precedence_le (op : BinaryOp) : op.precedence ≤ 5 := by
  cases op <;> decide

theorem Written.binary {t : Token} {op : BinaryOp} (h : Written ρ op.precedence ts e)
    (ht : t.binaryOp? = some op) (hu : Written ρ (op.precedence + 1) us u)
    (he : e.isList = false) (hlist : u.isList = false) :
    Written ρ op.precedence (ts ++ t :: us) (.binary op e u) := by
  have hle := precedence_le op
  have hkind := kind_of_binaryOp? ht
  rw [written_iff_left hle] at h ⊢
  intro rest v rest' hrest hv
  have hlevel : 6 - (5 - op.precedence) = op.precedence + 1 := by omega
  -- the right operand is read on the level below, so it ends where the loop goes on
  have hright : Gives ρ (parseLevel (5 - op.precedence) (us ++ rest)) u rest :=
    Written.level (by rwa [hlevel]) (by omega) hrest
  have hstops : Stops (6 - (5 - op.precedence)) (t :: (us ++ rest)) := by
    refine stops_cons (by simp [hkind]) ?_ _
    simp only [Token.reach, ht, Option.map_some, Option.getD_some]
    rw [if_neg (by simp [hkind])]
    omega
  rw [List.append_assoc]
  exact h hstops (goesOn_step ht (by omega) hright he hlist hv)

/-! ### Calls -/

theorem ofName?_opener (f : Function) : Function.ofName? (f.name ++ "(") = some f := by
  cases f <;> decide

namespace Term

theorem strength_pos (t : Term) : 1 ≤ t.strength := by
  cases t <;> simp [strength, precedence_pos]

theorem strength_le (t : Term) : t.strength ≤ 8 := by
  cases t with
  | binary op left right => exact Nat.le_trans (precedence_le op) (by omega)
  | _ => simp [strength]

/-- The arguments from here on, read one after another, make the call of all of them. -/
theorem arguments_tokensAll {f : Function} {opener : String} {args : List Term}
    (hne : args ≠ []) (h : ∀ t ∈ args, Written ρ t.strength t.tokens (t.expr ρ))
    {before : List (Option Expr)} (hf : f.apply (before ++ (exprAll ρ args).map some) = .ok e)
    (rest : List Token) :
    Arguments ρ f opener before (tokensAll args ++ ⟨.func, .closer, ")"⟩ :: rest) e rest := by
  induction args generalizing before with
  | nil => exact absurd rfl hne
  | cons t more ih =>
    have ht := h t List.mem_cons_self
    -- the argument ends at the comma or the closer, which go on with nothing
    have hread {next : Token} {tail : List Token} (hsolid : next.kind ≠ .whitespace)
        (hreach : next.reach < 1) :
        GivesArgument ρ (t.tokens ++ next :: tail) (some (t.expr ρ)) (next :: tail) :=
      (ht.expression t.strength_pos t.strength_le (stops_cons hsolid hreach tail)).argument
    cases more with
    | nil => exact arguments_last rfl (hread (by decide) (by decide)) hf
    | cons u more =>
      rw [tokensAll, List.append_assoc]
      refine arguments_step rfl (hread (by decide) (by decide)) ?_
      refine ih (by simp) (fun v hv => h v (List.mem_cons_of_mem t hv)) ?_
      rw [List.append_assoc]
      exact hf

theorem length_exprAll (ρ : String → Expr) (args : List Term) :
    (exprAll ρ args).length = args.length := by
  induction args with
  | nil => rfl
  | cons t more ih => rw [exprAll, List.length_cons, List.length_cons, ih]

/-- A function that admits as many arguments as there are, and that is left with some, makes them
the expression of the call. -/
theorem apply_exprAll {f : Function} {args : List Term} (hadmits : admits f args.length)
    (hsome : f = .if || !((exprAll ρ args).flatMap argumentItems).isEmpty) :
    f.apply ((exprAll ρ args).map some) = .ok ((call f args).expr ρ) := by
  rw [expr, Function.apply]
  by_cases hif : f = .if
  · rw [if_pos hif, if_pos hif]
    rw [admits, if_pos hif, ← length_exprAll ρ args] at hadmits
    generalize exprAll ρ args = es at hadmits
    -- two arguments or three, and none of them empty
    match es, hadmits with
    | [cond, onTrue], _ => rfl
    | [cond, onTrue, onFalse], _ => rfl
  · have hne : (exprAll ρ args).flatMap argumentItems ≠ [] := by
      simpa [hif] using hsome
    have hpresent : ((exprAll ρ args).map some).filterMap id = exprAll ρ args := by simp
    rw [if_neg hif, if_neg hif, hpresent]
    split
    case h_1 hnil => exact absurd hnil hne
    case h_2 => rfl

/-! ### All trees -/

/-- Only ranges become lists. -/
theorem isList_expr {t : Term} (h : t.suits ρ) : (t.expr ρ).isList = t.isRange := by
  cases t with
  | reference r => exact of_decide_eq_true h
  | call f args =>
    rw [expr]
    split
    · split <;> rfl
    · rfl
  | _ => rfl

theorem not_isList_expr {t : Term} (h : t.suits ρ) (ht : t.isRange = false) :
    (t.expr ρ).isList = false :=
  (isList_expr h).trans ht

mutual

/-- **The tokens of a tree are read as its expression.** -/
theorem written_tokens :
    (t : Term) → t.wellFormed → t.suits ρ → t.supplied ρ →
      Written ρ t.strength t.tokens (t.expr ρ)
  | number n, hwf, _, _ => by
    refine written_operand rfl ?_
    rw [Token.operand, operandSubkind_number hwf]
    rfl
  | text s, _, _, _ => by
    refine written_operand rfl ?_
    rw [Token.operand, operandSubkind_text, operandExprOf?, expr, textLiteral_enclosed]
  | bool b, _, _, _ => by
    refine written_operand rfl ?_
    rw [Token.operand, operandSubkind_bool]
    cases b <;> rfl
  | reference r, hwf, _, _ => by
    refine written_operand rfl ?_
    rw [Token.operand, operandSubkind_reference hwf]
    rfl
  | group inner, hwf, hs, hsome => by
    simp only [wellFormed, Bool.and_eq_true, Bool.not_eq_true'] at hwf
    have hinner := written_tokens inner hwf.1 hs hsome
    have hgroup := hinner.group (o := ⟨.paren, .opener, "("⟩) (c := ⟨.paren, .closer, ")"⟩) rfl
      inner.strength_pos inner.strength_le rfl
    rwa [grouped_eq_group (not_isList_expr (t := inner) hs hwf.2)] at hgroup
  | sign op operand, hwf, hs, hsome => by
    simp only [wellFormed, Bool.and_eq_true, Bool.not_eq_true', decide_eq_true_eq] at hwf
    have hoperand := written_tokens operand hwf.1.1 hs hsome
    exact (hoperand.weaken hwf.2 operand.strength_le).sign rfl (ofSymbol?_symbol op)
      (not_isList_expr hs hwf.1.2)
  | percent operand, hwf, hs, hsome => by
    simp only [wellFormed, Bool.and_eq_true, Bool.not_eq_true', decide_eq_true_eq] at hwf
    have hoperand := written_tokens operand hwf.1.1 hs hsome
    exact (hoperand.weaken hwf.2 operand.strength_le).percent rfl (not_isList_expr hs hwf.1.2)
  | binary op left right, hwf, hs, hsome => by
    simp only [wellFormed, Bool.and_eq_true, Bool.not_eq_true', decide_eq_true_eq] at hwf
    simp only [suits, supplied, Bool.and_eq_true] at hs hsome
    obtain ⟨⟨⟨hwfl, hl⟩, hlstrong⟩, ⟨⟨hwfr, hr⟩, hrstrong⟩⟩ := hwf
    have hleft := written_tokens left hwfl hs.1 hsome.1
    have hright := written_tokens right hwfr hs.2 hsome.2
    exact (hleft.weaken hlstrong left.strength_le).binary (binaryOp?_symbol op)
      (hright.weaken hrstrong right.strength_le) (not_isList_expr hs.1 hl)
      (not_isList_expr hs.2 hr)
  | call f args, hwf, hs, hsome => by
    simp only [wellFormed, supplied, Bool.and_eq_true] at hwf hsome
    have hargs := written_each args hwf.2 hs hsome.1
    have hne : args ≠ [] := by
      rintro rfl
      cases f <;> simp [admits] at hwf
    -- the opener, the arguments one after another, and the closer behind the last
    intro rest
    rw [tokens, List.append_assoc]
    exact gives_call rfl (ofName?_opener f)
      (arguments_tokensAll hne hargs (apply_exprAll hwf.1 hsome.2) rest)

/-- The tokens of each of several trees are read as its expression. -/
theorem written_each :
    (ts : List Term) → wellFormedAll ts → suitsAll ρ ts → suppliedAll ρ ts →
      ∀ t ∈ ts, Written ρ t.strength t.tokens (t.expr ρ)
  | [], _, _, _ => by simp
  | t :: rest, hwf, hs, hsome => by
    simp only [wellFormedAll, suitsAll, suppliedAll, Bool.and_eq_true] at hwf hs hsome
    have hhead := written_tokens t hwf.1 hs.1 hsome.1
    have htail := written_each rest hwf.2 hs.2 hsome.2
    exact List.forall_mem_cons.mpr ⟨hhead, htail⟩

end

end Term

end ReportCompiler.Formula
