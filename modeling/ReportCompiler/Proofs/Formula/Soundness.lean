import ReportCompiler.Proofs.Formula.Blanks
import ReportCompiler.Proofs.Formula.Grammar
import ReportCompiler.Proofs.Formula.Rules

/-!
# What is read is derived

Every function of the reader takes a run of solid tokens off the front, and the grammar derives from
that run the expression which the function returns.  The loops of the reader have an expression
behind them already, and what they return is derived from the tokens of that expression and those
they take themselves: this is how repeated operators come to group to the left.

## Main definitions

* `Reading.Finds resolve Q r` - with its references resolved, the results of `r` satisfy `Q`.
* `Spans D ts p` - the tokens taken from `ts` to find `p` stand in the relation `D` to it.

## Main results

* `parse_spans` - what every function of the reader takes and finds.
* `isFormula_of_run` - **what a whole formula is read as, the grammar derives.**
-/

namespace ReportCompiler.Formula

variable {ε : Type} {resolve : String → Except ε Expr}

/-! ### Results of readings -/

namespace Reading

variable {α β : Type}

/-- With references resolved by `resolve`, the result satisfies `Q` if there is one. -/
def Finds (resolve : String → Except ε Expr) (Q : α → Prop) : Reading α → Prop
  | done a => Q a
  | fault _ => True
  | ask reference next => ∀ e, resolve reference = .ok e → (next e).Finds resolve Q

theorem Finds.bind {Q : α → Prop} {Q' : β → Prop} {r : Reading α} {f : α → Reading β}
    (h : r.Finds resolve Q) (hf : ∀ a, Q a → (f a).Finds resolve Q') :
    (r.bind f).Finds resolve Q' := by
  induction r with
  | done a => exact hf a h
  | fault why => trivial
  | ask reference next ih => exact fun e he => ih e (h e he)

theorem Finds.mono {Q Q' : α → Prop} {r : Reading α} (h : r.Finds resolve Q)
    (hQ : ∀ a, Q a → Q' a) : r.Finds resolve Q' := by
  have hbind := h.bind (f := done) hQ
  rwa [bind_done] at hbind

theorem Finds.of_run {Q : α → Prop} {r : Reading α} {raise : Fault → ε} {a : α}
    (h : r.Finds resolve Q) (hrun : r.run resolve (fun why => .error (raise why)) = .ok a) :
    Q a := by
  induction r with
  | done b =>
    obtain rfl := Except.ok.inj hrun
    exact h
  | fault why => cases hrun
  | ask reference next ih =>
    rw [run] at hrun
    cases hanswer : resolve reference with
    | error why =>
      rw [hanswer] at hrun
      cases hrun
    | ok e =>
      rw [hanswer] at hrun
      exact ih e (h e hanswer) hrun

end Reading

open Reading (Finds)

theorem scalar_finds (e : Expr) : (scalar e).Finds resolve fun a => a = e ∧ e.isList = false := by
  cases e <;> first | exact ⟨rfl, rfl⟩ | trivial

/-! ### Runs of tokens -/

/-- The solid tokens taken from `ts` stand in the relation `D` to the expression found. -/
def Spans (D : List Token → Expr → Prop) (ts : List Token) {ts₀ : List Token}
    (p : Expr × Rest ts₀) : Prop :=
  ∃ us, solid ts = us ++ solid p.2.1 ∧ D us p.1

section

variable {D D' : List Token → Expr → Prop} {ts ts' ts₀ : List Token} {p : Expr × Rest ts₀}

theorem Spans.mono (h : Spans D ts p) (hD : ∀ us e, D us e → D' us e) : Spans D' ts p := by
  obtain ⟨us, hus, hd⟩ := h
  exact ⟨us, hus, hD us _ hd⟩

/-- Nothing more is taken. -/
theorem spans_nil {e : Expr} {r : Rest ts₀} (h : D [] e) : Spans D r.1 (e, r) :=
  ⟨[], rfl, h⟩

/-- What is taken behind other tokens. -/
theorem Spans.behind (us : List Token) (hts : solid ts = us ++ solid ts')
    (h : Spans (fun vs => D (us ++ vs)) ts' p) : Spans D ts p := by
  obtain ⟨vs, hvs, hd⟩ := h
  refine ⟨us ++ vs, ?_, hd⟩
  rw [hts, hvs, List.append_assoc]

theorem spans_singleton {t : Token} {e : Expr} {r : Rest ts} (hnext : next? ts = some (t, r))
    (h : D [t] e) : Spans D ts (e, r) :=
  ⟨[t], solid_of_next? hnext, h⟩

end

/-- The solid tokens taken from `ts` derive the argument that is found, perhaps an empty one. -/
def SpansArgument (resolve : String → Except ε Expr) (ts : List Token)
    (arg : Option (Expr × Rest ts)) : Prop :=
  ∃ us, solid ts = us ++ solid (leftOver arg) ∧ DerivesArgument resolve us (arg.map Prod.fst)

/-- The tokens are the last arguments of a call and its closer; `args` are those before them. -/
def EndsCall (resolve : String → Except ε Expr) (f : Function) (args : List (Option Expr))
    (us : List Token) (e : Expr) : Prop :=
  ∃ ts c more, us = ts ++ [c] ∧ c.is .func .closer ∧ DerivesAll resolve ts more ∧
    CallMakes f (args ++ more) e

/-- What the level below derives, a level of infix operators derives too. -/
theorem Derives.loosen {n : Nat} {ts : List Token} {e : Expr} (h : Derives resolve (6 - n) ts e) :
    Derives resolve (5 - n) ts e := by
  by_cases hn : n ≤ 5
  · have hsucc : 6 - n = (5 - n) + 1 := by omega
    rw [hsucc] at h
    exact .tighter h
  · have hzero : 6 - n = 5 - n := by omega
    rwa [hzero] at h

theorem is_of_kind {t : Token} {kind : TokenKind} {subkind : TokenSubkind} (hk : t.kind = kind)
    (hs : t.subkind = subkind) : t.is kind subkind := by
  simp [Token.is, hk, hs]

/-! ### One lemma for each construct, from what is known of its parts -/

theorem parsePercents_spans {ts us : List Token} (e : Expr) (r : Rest ts)
    (h : Derives resolve 6 us e) :
    (parsePercents e r).Finds resolve (Spans (fun vs => Derives resolve 6 (us ++ vs)) r.1) := by
  induction e, r using parsePercents.induct generalizing us with
  | case1 e r hend =>
    rw [parsePercents, hend]
    exact spans_nil (by rwa [List.append_nil])
  | case2 e r t r₁ hnext hpost ih =>
    rw [parsePercents, hnext]
    simp only [hpost, if_true]
    refine (scalar_finds e).bind fun a ha => ?_
    obtain ⟨rfl, he⟩ := ha
    -- the sign goes over to the tokens of the expression that the loop has behind it
    refine (ih a (.percent h hpost he)).mono fun p hp => ?_
    refine Spans.behind [t] (solid_of_next? hnext) (hp.mono fun vs u hu => ?_)
    rwa [List.append_assoc] at hu
  | case3 e r t r₁ hnext hother =>
    rw [parsePercents, hnext]
    simp only [hother, if_false]
    exact spans_nil (by rwa [List.append_nil])

/-- An operator of the level: the right operand, then the operators after it. -/
theorem spans_infix {ts us : List Token} {n : Nat} {left : Expr} {r : Rest ts} {t : Token}
    {r₁ : Rest r.1} {op : BinaryOp} (hnext : next? r.1 = some (t, r₁))
    (hop : t.binaryOp? = some op) (hn : op ∈ BinaryOp.level n)
    (hright : (parseLevel n r₁.1).Finds resolve (Spans (Derives resolve (6 - n)) r₁.1))
    (hrest : ∀ (r₂ : Rest r₁.1) (l e : Expr) (ws : List Token),
      Derives resolve (5 - n) ws (.binary op l e) →
      (parseInfix n (.binary op l e) (r.trans (r₁.trans r₂))).Finds resolve
        (Spans (fun vs => Derives resolve (5 - n) (ws ++ vs)) r₂.1))
    (hleft : Derives resolve (5 - n) us left) :
    (parseInfix n left r).Finds resolve
      (Spans (fun vs => Derives resolve (5 - n) (us ++ vs)) r.1) := by
  have hsum := BinaryOp.mem_level.mp hn
  have hprec : 5 - n = op.precedence := by omega
  have hnext6 : 6 - n = op.precedence + 1 := by omega
  rw [parseInfix, hnext]
  simp only [hop, hn, if_true]
  refine hright.bind fun p hp => ?_
  obtain ⟨right, r₂⟩ := p
  obtain ⟨ws, hws, hright⟩ := hp
  refine (scalar_finds left).bind fun l hl => ?_
  refine (scalar_finds right).bind fun e he => ?_
  obtain ⟨rfl, hlscalar⟩ := hl
  obtain ⟨rfl, hescalar⟩ := he
  -- the operator and its right operand go over to the tokens that the loop has behind it
  have hbinary : Derives resolve (5 - n) (us ++ t :: ws) (.binary op l e) := by
    rw [hprec] at hleft ⊢
    rw [hnext6] at hright
    exact .binary hleft hop hright hlscalar hescalar
  refine (hrest r₂ l e (us ++ t :: ws) hbinary).mono fun p hp => ?_
  have htaken : solid r.1 = (t :: ws) ++ solid r₂.1 := by
    rw [solid_of_next? hnext, hws, List.cons_append]
  refine Spans.behind (t :: ws) htaken (hp.mono fun vs u hu => ?_)
  rwa [List.append_assoc] at hu

theorem spans_sign {ts : List Token} {t : Token} {r : Rest ts} {op : UnaryOp}
    (hnext : next? ts = some (t, r)) (hkind : t.kind = .prefixOp)
    (hop : UnaryOp.ofSymbol? t.value = some op)
    (ih : (parseUnary r.1).Finds resolve (Spans (Derives resolve 7) r.1)) :
    (parseUnary ts).Finds resolve (Spans (Derives resolve 7) ts) := by
  rw [parseUnary, hnext]
  simp only [hkind, hop, if_true]
  refine ih.bind fun p hp => ?_
  obtain ⟨e, r₁⟩ := p
  obtain ⟨us, hus, he⟩ := hp
  refine (scalar_finds e).bind fun a ha => ?_
  obtain ⟨rfl, hscalar⟩ := ha
  refine ⟨t :: us, ?_, .sign hkind hop he hscalar⟩
  rw [solid_of_next? hnext, hus, List.cons_append]
  rfl

/-- Brackets: what is inside, and the closer. -/
theorem spans_group {ts : List Token} {t : Token} {r : Rest ts} (hnext : next? ts = some (t, r))
    (hsub : t.subkind = .opener) (hkind : t.kind = .paren)
    (ih : (parseExpression r.1).Finds resolve (SpansArgument resolve r.1)) :
    (parsePrimary ts).Finds resolve (Spans (Derives resolve 8) ts) := by
  rw [parsePrimary, hnext]
  simp only [hsub, hkind]
  refine ih.bind fun inner hspans => ?_
  obtain ⟨us, hus, hinner⟩ := hspans
  rcases inner with _ | ⟨e, r₁⟩
  · trivial
  simp only
  split
  case h_1 => trivial
  case h_2 c r₂ hclose =>
    split
    case isFalse => trivial
    case isTrue hcloser =>
      cases hinner with
      | given he =>
        refine ⟨t :: us ++ [c], ?_, .group (is_of_kind hkind hsub) he hcloser⟩
        rw [solid_of_next? hnext, hus]
        simp [leftOver, solid_of_next? hclose]

/-- An argument, and behind it a comma and more arguments, or the closer of the call. -/
theorem spans_argument {ts : List Token} {f : Function} {opener : String}
    {args : List (Option Expr)} {r : Rest ts}
    (ih : (parseExpression r.1).Finds resolve (SpansArgument resolve r.1))
    (hrest : ∀ (arg : Option (Expr × Rest r.1)) (r₁ : Rest (r.after arg).1),
      (parseArguments f opener (args ++ [arg.map Prod.fst]) ((r.after arg).trans r₁)).Finds resolve
        (Spans (EndsCall resolve f (args ++ [arg.map Prod.fst])) r₁.1)) :
    (parseArguments f opener args r).Finds resolve (Spans (EndsCall resolve f args) r.1) := by
  rw [parseArguments]
  refine ih.bind fun arg hspans => ?_
  obtain ⟨us, hus, harg⟩ := hspans
  rw [← after_val] at hus
  cases hnext : next? (r.after arg).1 with
  | none => trivial
  | some p =>
    obtain ⟨t, r₁⟩ := p
    have htaken : solid r.1 = us ++ t :: solid r₁.1 := by
      rw [hus, solid_of_next? hnext]
    simp only
    split
    case isTrue hsep =>
      refine (hrest arg r₁).mono fun p hp => ?_
      obtain ⟨vs, hvs, ws, c, more, rfl, hc, hmore, hcall⟩ := hp
      refine ⟨us ++ t :: (ws ++ [c]), ?_, us ++ t :: ws, c, _, ?_, hc, .more harg hsep hmore, ?_⟩
      · rw [htaken, hvs]
        simp
      · simp
      · rwa [List.append_assoc] at hcall
    case isFalse =>
      split
      case isFalse => trivial
      case isTrue hclose =>
        cases happly : f.apply (args ++ [arg.map Prod.fst]) with
        | error why => trivial
        | ok e =>
          refine ⟨us ++ [t], ?_, us, t, _, rfl, hclose, .last harg, apply_eq_ok_iff.mp happly⟩
          rw [htaken]
          simp

/-! ### The whole reader -/

/-- **Every function of the reader takes tokens that derive what it finds**, on the layer that it
is for. -/
theorem parse_spans :
    (∀ ts, (parseExpression ts).Finds resolve (SpansArgument resolve ts)) ∧
    (∀ level ts,
      (parseLevel level ts).Finds resolve (Spans (Derives resolve (6 - level)) ts)) ∧
    (∀ ts n left (r : Rest ts) us, Derives resolve (5 - n) us left →
      (parseInfix n left r).Finds resolve
        (Spans (fun vs => Derives resolve (5 - n) (us ++ vs)) r.1)) ∧
    (∀ ts, (parseUnary ts).Finds resolve (Spans (Derives resolve 7) ts)) ∧
    (∀ ts, (parsePrimary ts).Finds resolve (Spans (Derives resolve 8) ts)) ∧
    (∀ ts f opener args (r : Rest ts),
      (parseArguments f opener args r).Finds resolve (Spans (EndsCall resolve f args) r.1)) := by
  -- the cases are those of the reader, in the order of its functions
  apply parseExpression.mutual_induct
  case case1 =>
    intro ts hend
    rw [parseExpression, hend]
    exact ⟨[], rfl, .empty⟩
  case case2 =>
    intro ts t r hnext hends
    rw [parseExpression, hnext]
    simp only [hends, if_true]
    exact ⟨[], rfl, .empty⟩
  case case3 =>
    intro ts t r hnext hends ih
    rw [parseExpression, hnext]
    simp only [hends]
    refine ih.bind fun p hp => ?_
    obtain ⟨us, hus, he⟩ := hp
    exact ⟨us, hus, .given he⟩
  case case4 =>
    intro ts ih
    rw [parseLevel]
    refine ih.bind fun p hp => ?_
    obtain ⟨e, r⟩ := p
    obtain ⟨us, hus, he⟩ := hp
    exact (parsePercents_spans e r (.tighter he)).mono fun p hp => Spans.behind us hus hp
  case case5 =>
    intro ts n ihlevel ihloop
    rw [parseLevel]
    refine ihlevel.bind fun p hp => ?_
    obtain ⟨left, r⟩ := p
    obtain ⟨us, hus, hleft⟩ := hp
    have hstrength : 6 - (n + 1) = 5 - n := by omega
    rw [hstrength]
    exact (ihloop left r us hleft.loosen).mono fun p hp => Spans.behind us hus hp
  case case6 =>
    intro ts n left r hend us hleft
    rw [parseInfix, hend]
    exact spans_nil (by rwa [List.append_nil])
  case case7 =>
    intro ts n left r t r₁ hnext hop us hleft
    rw [parseInfix, hnext]
    simp only [hop]
    exact spans_nil (by rwa [List.append_nil])
  case case8 =>
    intro ts n left r t r₁ hnext op hop hn ihright ihrest us hleft
    exact spans_infix hnext hop hn ihright ihrest hleft
  case case9 =>
    intro ts n left r t r₁ hnext op hop hn us hleft
    rw [parseInfix, hnext]
    simp only [hop, hn, if_false]
    exact spans_nil (by rwa [List.append_nil])
  case case10 =>
    intro ts hend ih
    rw [parseUnary, hend]
    exact ih.mono fun p hp => hp.mono fun us e he => .tighter he
  case case11 =>
    intro ts t r hnext hkind hop
    rw [parseUnary, hnext]
    simp only [hkind, hop, if_true]
    trivial
  case case12 =>
    intro ts t r hnext hkind op hop ih
    exact spans_sign hnext hkind hop ih
  case case13 =>
    intro ts t r hnext hkind ih
    rw [parseUnary, hnext]
    simp only [hkind, if_false]
    exact ih.mono fun p hp => hp.mono fun us e he => .tighter he
  case case14 =>
    intro ts hend
    rw [parsePrimary, hend]
    trivial
  -- the operands
  case case15 =>
    intro ts t r hnext hsub hkind
    rw [parsePrimary, hnext]
    simp only [hsub, hkind]
    exact fun e he => spans_singleton hnext (.operand (.reference (is_of_kind hkind hsub) he))
  case case16 =>
    intro ts t r hnext hsub hkind
    rw [parsePrimary, hnext]
    simp only [hsub, hkind]
    exact spans_singleton hnext (.operand (.text (is_of_kind hkind hsub)))
  case case17 =>
    intro ts t r hnext hsub hkind
    rw [parsePrimary, hnext]
    simp only [hsub, hkind]
    exact spans_singleton hnext (.operand (.number (is_of_kind hkind hsub)))
  case case18 =>
    intro ts t r hnext hsub hkind
    rw [parsePrimary, hnext]
    simp only [hsub, hkind]
    exact spans_singleton hnext (.operand (.logical (is_of_kind hkind hsub)))
  case case19 =>
    intro ts t r hnext hsub hkind hname
    rw [parsePrimary, hnext]
    simp only [hsub, hkind, hname]
    trivial
  case case20 =>
    intro ts t r hnext hsub hkind f hname ih
    rw [parsePrimary, hnext]
    simp only [hsub, hkind, hname]
    refine ih.mono fun p hp => ?_
    obtain ⟨us, hus, ws, c, args, rfl, hc, hargs, hcall⟩ := hp
    refine ⟨t :: ws ++ [c], ?_, .call (is_of_kind hkind hsub) hname hargs hc hcall⟩
    rw [solid_of_next? hnext, hus]
    simp
  case case21 =>
    intro ts t r hnext hsub hkind ih
    exact spans_group hnext hsub hkind ih
  case case22 =>
    intro ts t r hnext hends h₁ h₂ h₃ h₄ h₅ h₆
    rw [parsePrimary, hnext]
    simp only [hends, if_true]
    trivial
  case case23 =>
    intro ts t r hnext hends h₁ h₂ h₃ h₄ h₅ h₆
    rw [parsePrimary, hnext]
    simp only [hends]
    trivial
  case case24 =>
    intro ts f opener args r iharg ihrest
    exact spans_argument iharg ihrest

/-- **What a whole formula is read as, the grammar derives** from its solid tokens. -/
theorem isFormula_of_run {raise : Fault → ε} {ts : List Token} {e : Expr}
    (h : (parseFormula ts).run resolve (fun why => .error (raise why)) = .ok e) :
    IsFormula resolve (solid ts) e := by
  refine Finds.of_run (Q := IsFormula resolve (solid ts)) ?_ h
  refine (parse_spans.1 ts).bind fun parsed hspans => ?_
  obtain ⟨us, hus, hparsed⟩ := hspans
  rcases parsed with _ | ⟨u, r⟩
  · -- no expression: only blanks, or a token out of place
    cases hnext : next? ts <;> simp only [hnext] <;> trivial
  cases hnext : next? r.1 with
  | some p =>
    simp only [hnext]
    trivial
  | none =>
    simp only [hnext]
    refine (scalar_finds u).mono fun a ha => ?_
    obtain ⟨rfl, hscalar⟩ := ha
    have hall : solid ts = us := by
      rw [hus]
      simp [leftOver, solid_of_next?_none hnext]
    cases hparsed with
    | given ha =>
      rw [hall]
      exact ⟨ha, hscalar⟩

end ReportCompiler.Formula
