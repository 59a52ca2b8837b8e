import ReportCompiler.Proofs.Formula.Parsing
import ReportCompiler.Proofs.Formula.Soundness

/-!
# How far the reader goes

What a function of the reader leaves begins right behind the last token that it has used, and that
token is solid.  A function also uses as much as it can: the next solid token is no operator that
goes on with what was found, on the level that the function is for.

## Main definitions

* `Cuts ts rest` - `rest` is what is left of `ts` behind a solid token.
* `Halts k ts p` - what is left of `ts` is cut off in front of a token that goes on with nothing as
  strong as `k`.

## Main results

* `Cuts.eq_of_solid` - the place of a cut is known from the solid tokens that are left.
* `parse_halts` - **every function of the reader stops behind a solid token, and not too early.**
-/

namespace ReportCompiler.Formula

variable {ε : Type} {resolve : String → Except ε Expr}

open Reading (Finds)

/-! ### Behind a solid token -/

/-- The tokens `rest` are what is left of `ts` behind one of its solid tokens. -/
def Cuts (ts rest : List Token) : Prop :=
  ∃ front t, ts = front ++ t :: rest ∧ t.kind ≠ .whitespace

section

variable {ts us vs : List Token}

theorem Cuts.trans (h : Cuts ts us) (h' : Cuts us vs) : Cuts ts vs := by
  obtain ⟨front, t, rfl, -⟩ := h
  obtain ⟨front', t', rfl, hsolid⟩ := h'
  exact ⟨front ++ t :: front', t', by simp, hsolid⟩

theorem cuts_of_next? {t : Token} {r : Rest ts} (h : next? ts = some (t, r)) : Cuts ts r.1 := by
  fun_induction next? ts with
  | case1 => cases h
  | case2 u rest _ ih =>
    obtain ⟨p, hp, heq⟩ := Option.map_eq_some_iff.mp h
    obtain ⟨rfl, rfl⟩ := Prod.mk.inj heq
    obtain ⟨front, v, hrest, hsolid⟩ := ih hp
    exact ⟨u :: front, v, congrArg (u :: ·) hrest, hsolid⟩
  | case3 u rest hsolid =>
    obtain ⟨rfl, rfl⟩ := Prod.mk.inj (Option.some.inj h)
    exact ⟨[], u, rfl, hsolid⟩

theorem solid_append (ts us : List Token) : solid (ts ++ us) = solid ts ++ solid us :=
  List.filter_append ..

/-- Behind which solid token a list was cut, can be told from the solid tokens that are left. -/
theorem Cuts.eq_of_solid (h : Cuts ts us) (h' : Cuts ts vs) (hsolid : solid us = solid vs) :
    us = vs := by
  -- a list that is cut off later has fewer solid tokens
  have hfewer {front us vs : List Token} {t : Token} (ht : t.kind ≠ .whitespace)
      (hus : us = front ++ t :: vs) : solid us ≠ solid vs := by
    intro heq
    have hlength := congrArg List.length heq
    rw [hus, solid_append, solid_cons ht, List.length_append, List.length_cons] at hlength
    omega
  obtain ⟨front, t, rfl, ht⟩ := h
  obtain ⟨front', t', hts, ht'⟩ := h'
  rcases List.append_eq_append_iff.mp hts with ⟨as, -, has⟩ | ⟨as, -, has⟩
  · cases as with
    | nil => exact (List.cons.inj has).2
    | cons a as => exact absurd hsolid (hfewer ht' (List.cons.inj has).2)
  · cases as with
    | nil => exact (List.cons.inj has).2.symm
    | cons a as => exact absurd hsolid.symm (hfewer ht (List.cons.inj has).2)

end

/-! ### Where the reader stops -/

theorem stops_seven (ts : List Token) : Stops 7 ts := by
  intro t r _
  unfold Token.reach
  split
  case isTrue => omega
  case isFalse =>
    cases t.binaryOp? with
    | none => exact Nat.zero_lt_succ 6
    | some op => exact Nat.lt_of_le_of_lt (precedence_le op) (by omega)

theorem stops_of_next?_none {ts : List Token} (h : next? ts = none) (k : Nat) : Stops k ts := by
  intro t r hnext
  rw [h] at hnext
  cases hnext

theorem stops_of_next? {ts : List Token} {t : Token} {r : Rest ts} {k : Nat}
    (h : next? ts = some (t, r)) (hreach : t.reach < k) : Stops k ts := by
  intro u r' hnext
  rw [h] at hnext
  obtain ⟨rfl, -⟩ := Prod.mk.inj (Option.some.inj hnext)
  exact hreach

/-- What was found ends behind a solid token of `ts`, in front of one that goes on with nothing as
strong as `k`. -/
def Halts (k : Nat) (ts : List Token) {ts₀ : List Token} (p : Expr × Rest ts₀) : Prop :=
  Cuts ts p.2.1 ∧ Stops k p.2.1

theorem parsePercents_halts {ts us : List Token} (e : Expr) (r : Rest ts) (h : Cuts us r.1) :
    (parsePercents e r).Finds resolve (Halts 6 us) := by
  induction e, r using parsePercents.induct with
  | case1 e r hend =>
    rw [parsePercents, hend]
    exact ⟨h, stops_of_next?_none hend 6⟩
  | case2 e r t r₁ hnext hpost ih =>
    rw [parsePercents, hnext]
    simp only [hpost, if_true]
    exact (scalar_finds e).bind fun a _ => ih a (h.trans (cuts_of_next? hnext))
  | case3 e r t r₁ hnext hother =>
    rw [parsePercents, hnext]
    simp only [hother, if_false]
    refine ⟨h, stops_of_next? hnext ?_⟩
    rw [Token.reach, if_neg hother]
    cases t.binaryOp? with
    | none => exact Nat.zero_lt_succ 5
    | some op => exact Nat.lt_succ_of_le (precedence_le op)

/-- The loop of a level of infix operators stops in front of a token that is no operator of the
level, and that the tighter levels have left. -/
theorem stops_of_level {ts : List Token} {t : Token} {r : Rest ts} {n : Nat} (hn : n ≤ 4)
    (h : Stops (6 - n) ts) (hnext : next? ts = some (t, r))
    (hother : ∀ op, t.binaryOp? = some op → op ∉ BinaryOp.level n) : Stops (5 - n) ts := by
  have hreach := h t r hnext
  refine stops_of_next? hnext ?_
  by_cases hpost : t.kind = .postfixOp
  · simp only [Token.reach, if_pos hpost] at hreach ⊢
    omega
  · rw [Token.reach, if_neg hpost] at hreach ⊢
    cases hop : t.binaryOp? with
    | none =>
      rw [Option.map_none, Option.getD_none]
      omega
    | some op =>
      rw [hop, Option.map_some, Option.getD_some] at hreach
      rw [Option.map_some, Option.getD_some]
      have hlevel : op.precedence + n ≠ 5 := fun heq => hother op hop (BinaryOp.mem_level.mpr heq)
      omega

/-- An operator of the level: the right operand, then the operators after it. -/
theorem halts_infix {ts us : List Token} {n : Nat} {left : Expr} {r : Rest ts} {t : Token}
    {r₁ : Rest r.1} {op : BinaryOp} (hnext : next? r.1 = some (t, r₁))
    (hop : t.binaryOp? = some op) (hlevel : op ∈ BinaryOp.level n)
    (hright : (parseLevel n r₁.1).Finds resolve (Halts (6 - n) r₁.1))
    (hrest : ∀ (r₂ : Rest r₁.1) (l e : Expr), Cuts us r₂.1 → Stops (6 - n) r₂.1 →
      (parseInfix n (.binary op l e) (r.trans (r₁.trans r₂))).Finds resolve (Halts (5 - n) us))
    (h : Cuts us r.1) : (parseInfix n left r).Finds resolve (Halts (5 - n) us) := by
  rw [parseInfix, hnext]
  simp only [hop, hlevel, if_true]
  refine hright.bind fun p hp => ?_
  refine (scalar_finds left).bind fun l _ => ?_
  refine (scalar_finds p.1).bind fun e _ => ?_
  exact hrest p.2 l e ((h.trans (cuts_of_next? hnext)).trans hp.1) hp.2

/-- Brackets: what is inside, and the closer. -/
theorem halts_group {ts : List Token} {t : Token} {r : Rest ts} (hnext : next? ts = some (t, r))
    (hsub : t.subkind = .opener) (hkind : t.kind = .paren)
    (ih : (parseExpression r.1).Finds resolve fun arg => ∀ p ∈ arg, Halts 1 r.1 p) :
    (parsePrimary ts).Finds resolve (Halts 7 ts) := by
  rw [parsePrimary, hnext]
  simp only [hsub, hkind]
  refine ih.bind fun inner hinner => ?_
  rcases inner with _ | ⟨e, r₁⟩
  · trivial
  simp only
  split
  case h_1 => trivial
  case h_2 c r₂ hclose =>
    split
    case isFalse => trivial
    case isTrue =>
      have hinside : Cuts r.1 r₁.1 := (hinner _ rfl).1
      exact ⟨((cuts_of_next? hnext).trans hinside).trans (cuts_of_next? hclose), stops_seven _⟩

/-- Tokens that were cut off in front of an argument are also cut off behind it. -/
theorem Cuts.after {ts us : List Token} {r : Rest ts} (h : Cuts us r.1)
    {arg : Option (Expr × Rest r.1)} (harg : ∀ p ∈ arg, Halts 1 r.1 p) :
    Cuts us (r.after arg).1 := by
  cases arg with
  | none => exact h
  | some p => exact h.trans (harg p rfl).1

/-- An argument, and behind it a comma and more arguments, or the closer of the call. -/
theorem halts_argument {ts us : List Token} {f : Function} {opener : String}
    {args : List (Option Expr)} {r : Rest ts}
    (ih : (parseExpression r.1).Finds resolve fun arg => ∀ p ∈ arg, Halts 1 r.1 p)
    (hrest : ∀ (arg : Option (Expr × Rest r.1)) (r₁ : Rest (r.after arg).1), Cuts us r₁.1 →
      (parseArguments f opener (args ++ [arg.map Prod.fst]) ((r.after arg).trans r₁)).Finds resolve
        (Halts 7 us))
    (h : Cuts us r.1) : (parseArguments f opener args r).Finds resolve (Halts 7 us) := by
  rw [parseArguments]
  refine ih.bind fun arg harg => ?_
  cases hnext : next? (r.after arg).1 with
  | none => trivial
  | some p =>
    obtain ⟨t, r₁⟩ := p
    have hcut : Cuts us r₁.1 := (h.after harg).trans (cuts_of_next? hnext)
    simp only
    split
    case isTrue => exact hrest arg r₁ hcut
    case isFalse =>
      split
      case isFalse => trivial
      case isTrue =>
        cases f.apply (args ++ [arg.map Prod.fst]) with
        | error why => trivial
        | ok e => exact ⟨hcut, stops_seven _⟩

/-- **Every function of the reader stops behind a solid token**, in front of one that goes on with
nothing that the function is for. -/
theorem parse_halts :
    (∀ ts, (parseExpression ts).Finds resolve fun arg => ∀ p ∈ arg, Halts 1 ts p) ∧
    (∀ n ts, n ≤ 5 → (parseLevel n ts).Finds resolve (Halts (6 - n) ts)) ∧
    (∀ ts n left (r : Rest ts) us, n ≤ 4 → Cuts us r.1 → Stops (6 - n) r.1 →
      (parseInfix n left r).Finds resolve (Halts (5 - n) us)) ∧
    (∀ ts, (parseUnary ts).Finds resolve (Halts 7 ts)) ∧
    (∀ ts, (parsePrimary ts).Finds resolve (Halts 7 ts)) ∧
    (∀ ts f opener args (r : Rest ts) us, Cuts us r.1 →
      (parseArguments f opener args r).Finds resolve (Halts 7 us)) := by
  -- the cases are those of the reader, in the order of its functions
  apply parseExpression.mutual_induct
  case case1 =>
    intro ts hend
    rw [parseExpression, hend]
    intro p hp
    cases hp
  case case2 =>
    intro ts t r hnext hends
    rw [parseExpression, hnext]
    simp only [hends, if_true]
    intro p hp
    cases hp
  case case3 =>
    intro ts t r hnext hends ih
    rw [parseExpression, hnext]
    simp only [hends]
    refine (ih (by omega)).bind fun p hp q hq => ?_
    obtain rfl := Option.some.inj hq
    exact hp
  case case4 =>
    intro ts ih _
    rw [parseLevel]
    exact ih.bind fun p hp => parsePercents_halts p.1 p.2 hp.1
  case case5 =>
    intro ts n ihlevel ihloop hn
    rw [parseLevel]
    refine (ihlevel (by omega)).bind fun p hp => ?_
    have hstrength : 6 - (n + 1) = 5 - n := by omega
    rw [hstrength]
    exact ihloop p.1 p.2 ts (by omega) hp.1 hp.2
  case case6 =>
    intro ts n left r hend us _ hcut _
    rw [parseInfix, hend]
    exact ⟨hcut, stops_of_next?_none hend _⟩
  case case7 =>
    intro ts n left r t r₁ hnext hop us hn hcut hstops
    rw [parseInfix, hnext]
    simp only [hop]
    exact ⟨hcut, stops_of_level hn hstops hnext (by simp [hop])⟩
  case case8 =>
    intro ts n left r t r₁ hnext op hop hlevel ihright ihrest us hn hcut _
    exact halts_infix hnext hop hlevel (ihright (by omega))
      (fun r₂ l e => ihrest r₂ l e us hn) hcut
  case case9 =>
    intro ts n left r t r₁ hnext op hop hlevel us hn hcut hstops
    rw [parseInfix, hnext]
    simp only [hop, hlevel, if_false]
    exact ⟨hcut, stops_of_level hn hstops hnext (by simp [hop, hlevel])⟩
  case case10 =>
    intro ts hend ih
    rw [parseUnary, hend]
    exact ih
  case case11 =>
    intro ts t r hnext hkind hop
    rw [parseUnary, hnext]
    simp only [hkind, hop, if_true]
    trivial
  case case12 =>
    intro ts t r hnext hkind op hop ih
    rw [parseUnary, hnext]
    simp only [hkind, hop, if_true]
    refine ih.bind fun p hp => (scalar_finds p.1).bind fun e _ => ?_
    exact ⟨(cuts_of_next? hnext).trans hp.1, hp.2⟩
  case case13 =>
    intro ts t r hnext hkind ih
    rw [parseUnary, hnext]
    simp only [hkind, if_false]
    exact ih
  case case14 =>
    intro ts hend
    rw [parsePrimary, hend]
    trivial
  -- the operands
  case case15 =>
    intro ts t r hnext hsub hkind
    rw [parsePrimary, hnext]
    simp only [hsub, hkind]
    exact fun e _ => ⟨cuts_of_next? hnext, stops_seven _⟩
  case case16 | case17 | case18 =>
    intro ts t r hnext hsub hkind
    rw [parsePrimary, hnext]
    simp only [hsub, hkind]
    exact ⟨cuts_of_next? hnext, stops_seven _⟩
  case case19 =>
    intro ts t r hnext hsub hkind hname
    rw [parsePrimary, hnext]
    simp only [hsub, hkind, hname]
    trivial
  case case20 =>
    intro ts t r hnext hsub hkind f hname ih
    rw [parsePrimary, hnext]
    simp only [hsub, hkind, hname]
    exact ih ts (cuts_of_next? hnext)
  case case21 =>
    intro ts t r hnext hsub hkind ih
    exact halts_group hnext hsub hkind ih
  case case22 | case23 =>
    intro ts t r hnext hends h₁ h₂ h₃ h₄ h₅ h₆
    rw [parsePrimary, hnext]
    simp only [hends]
    trivial
  case case24 =>
    intro ts f opener args r iharg ihrest us hcut
    exact halts_argument iharg (fun arg r₁ => ihrest arg r₁ us) hcut

end ReportCompiler.Formula
