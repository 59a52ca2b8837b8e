import ReportCompiler.Formula.Parser

/-!
# Blanks between tokens

The reader skips blanks wherever it looks for a token.  Two token lists that differ in blanks only
are therefore read alike: the same references are asked for, the same fault stops the reading, and
the same expression is found.

## Main definitions

* `solid ts` - the tokens that are not blank.
* `Reading.Same R r r'` - two readings that ask the same, fail alike and end in results related by
  `R`.

## Main results

* `solid_of_next?`, `exists_next?_of_solid` - the reader looks at the first solid token.
* `parse_same` - every function of the reader is blind to blanks.
* `parseFormula_eq_of_solid` - **a whole formula is read alike whatever its blanks.**
-/

namespace ReportCompiler.Formula

/-! ### Solid tokens -/

/-- The tokens that are not blank. -/
def solid (ts : List Token) : List Token :=
  ts.filter fun t => t.kind ≠ .whitespace

theorem solid_cons_blank {t : Token} (ht : t.kind = .whitespace) (ts : List Token) :
    solid (t :: ts) = solid ts := by
  simp [solid, ht]

theorem solid_cons {t : Token} (ht : t.kind ≠ .whitespace) (ts : List Token) :
    solid (t :: ts) = t :: solid ts := by
  simp [solid, ht]

@[simp] theorem solid_solid (ts : List Token) : solid (solid ts) = solid ts := by
  simp [solid]

theorem solid_of_next?_none {ts : List Token} (h : next? ts = none) : solid ts = [] := by
  fun_induction next? ts with
  | case1 => rfl
  | case2 t rest hblank ih =>
    rw [solid_cons_blank hblank]
    exact ih (Option.map_eq_none_iff.mp h)
  | case3 => cases h

theorem solid_of_next? {ts : List Token} {t : Token} {r : Rest ts} (h : next? ts = some (t, r)) :
    solid ts = t :: solid r.1 := by
  fun_induction next? ts with
  | case1 => cases h
  | case2 u rest hblank ih =>
    obtain ⟨p, hp, heq⟩ := Option.map_eq_some_iff.mp h
    obtain ⟨rfl, rfl⟩ := Prod.mk.inj heq
    rw [solid_cons_blank hblank]
    exact ih hp
  | case3 u rest hsolid =>
    obtain ⟨rfl, rfl⟩ := Prod.mk.inj (Option.some.inj h)
    exact solid_cons hsolid rest

theorem next?_eq_none {ts : List Token} (h : solid ts = []) : next? ts = none := by
  cases hnext : next? ts with
  | none => rfl
  | some p =>
    rw [solid_of_next? (t := p.1) (r := p.2) hnext] at h
    cases h

theorem exists_next?_of_solid {ts us : List Token} {t : Token} (h : solid ts = t :: us) :
    ∃ r, next? ts = some (t, r) ∧ solid r.1 = us := by
  cases hnext : next? ts with
  | none =>
    rw [solid_of_next?_none hnext] at h
    cases h
  | some p =>
    obtain ⟨u, r⟩ := p
    rw [solid_of_next? hnext] at h
    obtain ⟨rfl, rfl⟩ := List.cons.inj h
    exact ⟨r, rfl, rfl⟩

/-- Two lists with the same solid tokens begin with the same solid token, or both with none. -/
theorem exists_next?_same {ts ts' : List Token} {t : Token} {r : Rest ts}
    (h : solid ts = solid ts') (hnext : next? ts = some (t, r)) :
    ∃ r', next? ts' = some (t, r') ∧ solid r.1 = solid r'.1 := by
  rw [solid_of_next? hnext] at h
  obtain ⟨r', hnext', hr⟩ := exists_next?_of_solid h.symm
  exact ⟨r', hnext', hr.symm⟩

theorem next?_none_same {ts ts' : List Token} (h : solid ts = solid ts')
    (hnext : next? ts = none) : next? ts' = none :=
  next?_eq_none (h ▸ solid_of_next?_none hnext)

/-! ### Readings that agree -/

/-- The readings ask for the same references, stop with the same faults and end in results related
by `R`. -/
inductive Reading.Same {α β : Type} (R : α → β → Prop) : Reading α → Reading β → Prop
  | done {a : α} {b : β} (h : R a b) : Same R (.done a) (.done b)
  | fault (why : Fault) : Same R (.fault why) (.fault why)
  | ask (reference : String) {next : Expr → Reading α} {next' : Expr → Reading β}
    (h : ∀ e, Same R (next e) (next' e)) : Same R (.ask reference next) (.ask reference next')

namespace Reading

variable {α β γ δ : Type} {R : α → β → Prop} {S : γ → δ → Prop}

theorem Same.bind {r : Reading α} {r' : Reading β} {f : α → Reading γ} {f' : β → Reading δ}
    (h : Same R r r') (hf : ∀ a b, R a b → Same S (f a) (f' b)) :
    Same S (r.bind f) (r'.bind f') := by
  induction h with
  | done h => exact hf _ _ h
  | fault why => exact .fault why
  | ask reference _ ih => exact .ask reference ih

theorem Same.refl {r : Reading α} : Same Eq r r := by
  induction r with
  | done a => exact .done rfl
  | fault why => exact .fault why
  | ask reference next ih => exact .ask reference ih

theorem Same.eq {r r' : Reading α} (h : Same Eq r r') : r = r' := by
  induction h with
  | done h => rw [h]
  | fault why => rfl
  | ask reference _ ih => rw [funext ih]

end Reading

/-! ### The reader is blind to blanks -/

/-- The same expression is found, and the same solid tokens are left. -/
def SameFound {ts ts' : List Token} (p : Expr × Rest ts) (p' : Expr × Rest ts') : Prop :=
  p.1 = p'.1 ∧ solid p.2.1 = solid p'.2.1

theorem solid_after_same {ts ts' : List Token} {r : Rest ts} {r' : Rest ts'}
    {arg : Option (Expr × Rest r.1)} {arg' : Option (Expr × Rest r'.1)}
    (h : solid r.1 = solid r'.1) (harg : Option.Rel SameFound arg arg') :
    solid (r.after arg).1 = solid (r'.after arg').1 := by
  cases harg with
  | none => exact h
  | some hp => exact hp.2

theorem map_fst_same {ts ts' : List Token} {arg : Option (Expr × Rest ts)}
    {arg' : Option (Expr × Rest ts')} (harg : Option.Rel SameFound arg arg') :
    arg.map Prod.fst = arg'.map Prod.fst := by
  cases harg with
  | none => rfl
  | some hp => exact congrArg some hp.1

open Reading (Same)

theorem parsePercents_same {ts ts' : List Token} (e : Expr) (r : Rest ts) (r' : Rest ts')
    (h : solid r.1 = solid r'.1) : Same SameFound (parsePercents e r) (parsePercents e r') := by
  induction e, r using parsePercents.induct generalizing r' with
  | case1 e r hend =>
    rw [parsePercents, parsePercents, hend, next?_none_same h hend]
    exact .done ⟨rfl, h⟩
  | case2 e r t r₁ hnext hpost ih =>
    obtain ⟨r₁', hnext', h₁⟩ := exists_next?_same h hnext
    rw [parsePercents, parsePercents, hnext, hnext']
    simp only [hpost, if_true]
    refine Same.refl.bind fun a b hab => ?_
    subst hab
    exact ih a (r'.trans r₁') h₁
  | case3 e r t r₁ hnext hother =>
    obtain ⟨r₁', hnext', -⟩ := exists_next?_same h hnext
    rw [parsePercents, parsePercents, hnext, hnext']
    simp only [hother, if_false]
    exact .done ⟨rfl, h⟩

/-- An operator of the level: the right operand, then the operators after it. -/
theorem same_infix {ts ts' : List Token} {n : Nat} {left : Expr} {r : Rest ts} {r' : Rest ts'}
    {t : Token} {r₁ : Rest r.1} {op : BinaryOp} (hnext : next? r.1 = some (t, r₁))
    (hop : t.binaryOp? = some op) (hn : op ∈ BinaryOp.level n)
    (hright : ∀ us, solid r₁.1 = solid us → Same SameFound (parseLevel n r₁.1) (parseLevel n us))
    (hrest : ∀ (r₂ : Rest r₁.1) (l e : Expr) (us : List Token) (s : Rest us),
      solid r₂.1 = solid s.1 → Same SameFound
        (parseInfix n (.binary op l e) (r.trans (r₁.trans r₂))) (parseInfix n (.binary op l e) s))
    (h : solid r.1 = solid r'.1) :
    Same SameFound (parseInfix n left r) (parseInfix n left r') := by
  obtain ⟨r₁', hnext', h₁⟩ := exists_next?_same h hnext
  rw [parseInfix, parseInfix, hnext, hnext']
  simp only [hop, hn, if_true]
  refine (hright r₁'.1 h₁).bind fun p p' hp => ?_
  refine Same.refl.bind fun l l' hl => ?_
  rw [← hp.1]
  refine Same.refl.bind fun e e' he => ?_
  subst hl he
  exact hrest p.2 l e _ (r'.trans (r₁'.trans p'.2)) hp.2

theorem same_sign {ts ts' : List Token} {t : Token} {r : Rest ts} {op : UnaryOp}
    (hnext : next? ts = some (t, r)) (hkind : t.kind = .prefixOp)
    (hop : UnaryOp.ofSymbol? t.value = some op)
    (ih : ∀ us, solid r.1 = solid us → Same SameFound (parseUnary r.1) (parseUnary us))
    (h : solid ts = solid ts') : Same SameFound (parseUnary ts) (parseUnary ts') := by
  obtain ⟨r', hnext', hr⟩ := exists_next?_same h hnext
  rw [parseUnary, parseUnary, hnext, hnext']
  simp only [hkind, hop, if_true]
  refine (ih r'.1 hr).bind fun p p' hp => ?_
  rw [← hp.1]
  refine Same.refl.bind fun e e' he => ?_
  exact .done ⟨congrArg (Expr.unary op) he, hp.2⟩

/-- Brackets: what is inside, and the closer. -/
theorem same_group {ts ts' : List Token} {t : Token} {r : Rest ts}
    (hnext : next? ts = some (t, r)) (hsub : t.subkind = .opener) (hkind : t.kind = .paren)
    (ih : ∀ us, solid r.1 = solid us →
      Same (Option.Rel SameFound) (parseExpression r.1) (parseExpression us))
    (h : solid ts = solid ts') : Same SameFound (parsePrimary ts) (parsePrimary ts') := by
  obtain ⟨r', hnext', hr⟩ := exists_next?_same h hnext
  rw [parsePrimary, parsePrimary, hnext, hnext']
  simp only [hsub, hkind]
  refine (ih r'.1 hr).bind fun inner inner' hinner => ?_
  cases hinner with
  | none => exact .fault _
  | @some p p' hp =>
    obtain ⟨e, r₁⟩ := p
    obtain ⟨e', r₁'⟩ := p'
    obtain ⟨rfl, hr₁⟩ : e = e' ∧ solid r₁.1 = solid r₁'.1 := hp
    cases hclose : next? r₁.1 with
    | none =>
      simp only [hclose, next?_none_same hr₁ hclose]
      exact .fault _
    | some q =>
      obtain ⟨u, r₂⟩ := q
      obtain ⟨r₂', hclose', hr₂⟩ := exists_next?_same hr₁ hclose
      simp only [hclose, hclose']
      split
      case isTrue => exact .done ⟨rfl, hr₂⟩
      case isFalse => exact .fault _

/-- An argument, and behind it a comma and more arguments, or the closer of the call. -/
theorem same_argument {ts ts' : List Token} {f : Function} {opener : String}
    {args : List (Option Expr)} {r : Rest ts} {r' : Rest ts'}
    (ih : ∀ us, solid r.1 = solid us →
      Same (Option.Rel SameFound) (parseExpression r.1) (parseExpression us))
    (hrest : ∀ (arg : Option (Expr × Rest r.1)) (r₁ : Rest (r.after arg).1) (us : List Token)
      (s : Rest us), solid r₁.1 = solid s.1 → Same SameFound
        (parseArguments f opener (args ++ [arg.map Prod.fst]) ((r.after arg).trans r₁))
        (parseArguments f opener (args ++ [arg.map Prod.fst]) s))
    (h : solid r.1 = solid r'.1) :
    Same SameFound (parseArguments f opener args r) (parseArguments f opener args r') := by
  rw [parseArguments, parseArguments]
  refine (ih r'.1 h).bind fun arg arg' harg => ?_
  have hafter := solid_after_same h harg
  rw [← map_fst_same harg]
  cases hnext : next? (r.after arg).1 with
  | none =>
    simp only [next?_none_same hafter hnext]
    exact .fault _
  | some p =>
    obtain ⟨t, r₁⟩ := p
    obtain ⟨r₁', hnext', h₁⟩ := exists_next?_same hafter hnext
    simp only [hnext']
    split
    case isTrue => exact hrest arg r₁ _ ((r'.after arg').trans r₁') h₁
    case isFalse =>
      split
      case isTrue =>
        refine Same.refl.bind fun e e' he => ?_
        exact .done ⟨he, h₁⟩
      case isFalse => exact .fault _

/-- **Every function of the reader is blind to blanks.** -/
theorem parse_same :
    (∀ ts ts', solid ts = solid ts' →
      Same (Option.Rel SameFound) (parseExpression ts) (parseExpression ts')) ∧
    (∀ level ts ts', solid ts = solid ts' →
      Same SameFound (parseLevel level ts) (parseLevel level ts')) ∧
    (∀ ts n left (r : Rest ts) ts' (r' : Rest ts'), solid r.1 = solid r'.1 →
      Same SameFound (parseInfix n left r) (parseInfix n left r')) ∧
    (∀ ts ts', solid ts = solid ts' → Same SameFound (parseUnary ts) (parseUnary ts')) ∧
    (∀ ts ts', solid ts = solid ts' → Same SameFound (parsePrimary ts) (parsePrimary ts')) ∧
    (∀ ts f opener args (r : Rest ts) ts' (r' : Rest ts'), solid r.1 = solid r'.1 →
      Same SameFound (parseArguments f opener args r) (parseArguments f opener args r')) := by
  -- the cases are those of the reader, in the order of its functions
  apply parseExpression.mutual_induct
  case case1 =>
    intro ts hend ts' h
    rw [parseExpression, parseExpression, hend, next?_none_same h hend]
    exact .done .none
  case case2 =>
    intro ts t r hnext hends ts' h
    obtain ⟨r', hnext', -⟩ := exists_next?_same h hnext
    rw [parseExpression, parseExpression, hnext, hnext']
    simp only [hends, if_true]
    exact .done .none
  case case3 =>
    intro ts t r hnext hends ih ts' h
    obtain ⟨r', hnext', -⟩ := exists_next?_same h hnext
    rw [parseExpression, parseExpression, hnext, hnext']
    simp only [hends]
    exact (ih ts' h).bind fun p p' hp => .done (.some hp)
  case case4 =>
    intro ts ih ts' h
    rw [parseLevel, parseLevel]
    refine (ih ts' h).bind fun p p' hp => ?_
    obtain ⟨e, r⟩ := p
    obtain ⟨e', r'⟩ := p'
    obtain ⟨rfl, hr⟩ : e = e' ∧ solid r.1 = solid r'.1 := hp
    exact parsePercents_same e r r' hr
  case case5 =>
    intro ts n ihlevel ihinfix ts' h
    rw [parseLevel, parseLevel]
    refine (ihlevel ts' h).bind fun p p' hp => ?_
    obtain ⟨left, r⟩ := p
    obtain ⟨left', r'⟩ := p'
    obtain ⟨rfl, hr⟩ : left = left' ∧ solid r.1 = solid r'.1 := hp
    exact ihinfix left r ts' r' hr
  case case6 =>
    intro ts n left r hend ts' r' h
    rw [parseInfix, parseInfix, hend, next?_none_same h hend]
    exact .done ⟨rfl, h⟩
  case case7 =>
    intro ts n left r t r₁ hnext hop ts' r' h
    obtain ⟨r₁', hnext', -⟩ := exists_next?_same h hnext
    rw [parseInfix, parseInfix, hnext, hnext']
    simp only [hop]
    exact .done ⟨rfl, h⟩
  case case8 =>
    intro ts n left r t r₁ hnext op hop hn ihright ihrest ts' r' h
    exact same_infix hnext hop hn ihright ihrest h
  case case9 =>
    intro ts n left r t r₁ hnext op hop hn ts' r' h
    obtain ⟨r₁', hnext', -⟩ := exists_next?_same h hnext
    rw [parseInfix, parseInfix, hnext, hnext']
    simp only [hop, hn, if_false]
    exact .done ⟨rfl, h⟩
  case case10 =>
    intro ts hend ih ts' h
    rw [parseUnary, parseUnary, hend, next?_none_same h hend]
    exact ih ts' h
  case case11 =>
    intro ts t r hnext hkind hop ts' h
    obtain ⟨r', hnext', -⟩ := exists_next?_same h hnext
    rw [parseUnary, parseUnary, hnext, hnext']
    simp only [hkind, hop, if_true]
    exact .fault _
  case case12 =>
    intro ts t r hnext hkind op hop ih ts' h
    exact same_sign hnext hkind hop ih h
  case case13 =>
    intro ts t r hnext hkind ih ts' h
    obtain ⟨r', hnext', -⟩ := exists_next?_same h hnext
    rw [parseUnary, parseUnary, hnext, hnext']
    simp only [hkind, if_false]
    exact ih ts' h
  case case14 =>
    intro ts hend ts' h
    rw [parsePrimary, parsePrimary, hend, next?_none_same h hend]
    exact .fault _
  -- the operands
  case case15 =>
    intro ts t r hnext hsub hkind ts' h
    obtain ⟨r', hnext', hr⟩ := exists_next?_same h hnext
    rw [parsePrimary, parsePrimary, hnext, hnext']
    simp only [hsub, hkind]
    exact .ask _ fun e => .done ⟨rfl, hr⟩
  case case16 =>
    intro ts t r hnext hsub hkind ts' h
    obtain ⟨r', hnext', hr⟩ := exists_next?_same h hnext
    rw [parsePrimary, parsePrimary, hnext, hnext']
    simp only [hsub, hkind]
    exact .done ⟨rfl, hr⟩
  case case17 =>
    intro ts t r hnext hsub hkind ts' h
    obtain ⟨r', hnext', hr⟩ := exists_next?_same h hnext
    rw [parsePrimary, parsePrimary, hnext, hnext']
    simp only [hsub, hkind]
    exact .done ⟨rfl, hr⟩
  case case18 =>
    intro ts t r hnext hsub hkind ts' h
    obtain ⟨r', hnext', hr⟩ := exists_next?_same h hnext
    rw [parsePrimary, parsePrimary, hnext, hnext']
    simp only [hsub, hkind]
    exact .done ⟨rfl, hr⟩
  case case19 =>
    intro ts t r hnext hsub hkind hname ts' h
    obtain ⟨r', hnext', -⟩ := exists_next?_same h hnext
    rw [parsePrimary, parsePrimary, hnext, hnext']
    simp only [hsub, hkind, hname]
    exact .fault _
  case case20 =>
    intro ts t r hnext hsub hkind f hname ih ts' h
    obtain ⟨r', hnext', hr⟩ := exists_next?_same h hnext
    rw [parsePrimary, parsePrimary, hnext, hnext']
    simp only [hsub, hkind, hname]
    exact ih ts' r' hr
  case case21 =>
    intro ts t r hnext hsub hkind ih ts' h
    exact same_group hnext hsub hkind ih h
  case case22 =>
    intro ts t r hnext hends h₁ h₂ h₃ h₄ h₅ h₆ ts' h
    obtain ⟨r', hnext', -⟩ := exists_next?_same h hnext
    rw [parsePrimary, parsePrimary, hnext, hnext']
    simp only [hends, if_true]
    exact .fault _
  case case23 =>
    intro ts t r hnext hends h₁ h₂ h₃ h₄ h₅ h₆ ts' h
    obtain ⟨r', hnext', -⟩ := exists_next?_same h hnext
    rw [parsePrimary, parsePrimary, hnext, hnext']
    simp only [hends]
    exact .fault _
  case case24 =>
    intro ts f opener args r iharg ihrest ts' r' h
    exact same_argument iharg ihrest h

/-- **A whole formula is read alike whatever its blanks**: the same references are asked for, and
the same expression or fault comes out. -/
theorem parseFormula_eq_of_solid {ts ts' : List Token} (h : solid ts = solid ts') :
    parseFormula ts = parseFormula ts' := by
  refine Same.eq ((parse_same.1 ts ts' h).bind fun parsed parsed' hparsed => ?_)
  cases hparsed with
  | none =>
    cases hnext : next? ts with
    | none =>
      simp only [hnext, next?_none_same h hnext]
      exact Same.refl
    | some p =>
      obtain ⟨r', hnext', -⟩ := exists_next?_same (t := p.1) (r := p.2) h hnext
      simp only [hnext, hnext']
      exact Same.refl
  | @some p p' hp =>
    simp only
    cases hnext : next? p.2.1 with
    | none =>
      simp only [next?_none_same hp.2 hnext, hp.1]
      exact Same.refl
    | some q =>
      obtain ⟨r', hnext', -⟩ := exists_next?_same (t := q.1) (r := q.2) hp.2 hnext
      simp only [hnext']
      exact Same.refl

end ReportCompiler.Formula
