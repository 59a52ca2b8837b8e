import ReportCompiler.Formula.Parser

/-!
# The references of a formula

The reader asks for references while it reads.  Which ones it asks for does not depend on the
answers: they are the reference operands of the tokens, from left to right.  What it builds from the
answers has only the parts that the answers have.

## Main definitions

* `references ts` - the texts of the reference operands of `ts`.
* `Reading.Consumes P Q refs r` - `r` asks for the first references of `refs`, and answered
  by expressions with `P` it ends in results with `Q`.
* `Expr.isList e` - `e` is the list of the members of a range.
* `Expr.Assembles S P` - the property `P` passes to what the reader builds, from operands with `S`.
* `Expr.Compositional P` - the property `P` of expressions passes from parts to the whole.

## Main results

* `parse_consumes` - what every function of the reader asks for and builds.
* `parseFormula_assembles`, `parseFormula_consumes` - **a whole formula asks for all its references,
  in order.**
-/

namespace ReportCompiler.Formula

/-! ### Reference operands -/

/-- The token is a reference. -/
def Token.isReference (t : Token) : Bool :=
  t.is .operand .range

/-- The texts of the reference operands, from left to right. -/
def references (ts : List Token) : List String :=
  (ts.filter Token.isReference).map Token.value

@[simp] theorem references_nil : references [] = [] := rfl

theorem references_cons (t : Token) (ts : List Token) :
    references (t :: ts) = (if t.isReference then [t.value] else []) ++ references ts := by
  cases h : t.isReference <;> simp [references, h]

theorem isReference_iff {t : Token} :
    t.isReference ↔ t.kind = .operand ∧ t.subkind = .range := by
  simp [Token.isReference, Token.is]

theorem isReference_of_kind {t : Token} (h : t.kind ≠ .operand) : t.isReference = false := by
  simp [Token.isReference, Token.is, h]

theorem isReference_of_subkind {t : Token} (h : t.subkind ≠ .range) : t.isReference = false := by
  simp [Token.isReference, Token.is, h]

theorem isReference_of_is {t : Token} {kind : TokenKind} {subkind : TokenSubkind}
    (h : t.is kind subkind) (hkind : kind ≠ .operand) : t.isReference = false := by
  simp only [Token.is, Bool.and_eq_true, decide_eq_true_eq] at h
  exact isReference_of_kind (by rw [h.1]; exact hkind)

theorem isReference_of_isArgSep {t : Token} (h : t.isArgSep) : t.isReference = false := by
  simp only [Token.isArgSep, Bool.and_eq_true, decide_eq_true_eq] at h
  exact isReference_of_kind (by simp [h.1])

theorem isReference_of_binaryOp? {t : Token} {op : BinaryOp} (h : t.binaryOp? = some op) :
    t.isReference = false := by
  refine isReference_of_kind fun hkind => ?_
  simp [Token.binaryOp?, hkind] at h

theorem references_eq_nil_of_next? {ts : List Token} (h : next? ts = none) :
    references ts = [] := by
  fun_induction next? ts with
  | case1 => rfl
  | case2 t rest hblank ih =>
    have hno := isReference_of_kind (t := t) (by simp [hblank])
    rw [references_cons, hno]
    exact ih (Option.map_eq_none_iff.mp h)
  | case3 => simp at h

/-- The next solid token is the only one between the tokens and what is left of them that may be a
reference. -/
theorem references_of_next? {ts : List Token} {t : Token} {r : Rest ts}
    (h : next? ts = some (t, r)) :
    references ts = (if t.isReference then [t.value] else []) ++ references r.1 := by
  fun_induction next? ts with
  | case1 => simp at h
  | case2 u rest hblank ih =>
    obtain ⟨p, hp, heq⟩ := Option.map_eq_some_iff.mp h
    have hno := isReference_of_kind (t := u) (by simp [hblank])
    obtain ⟨rfl, rfl⟩ := Prod.mk.inj heq
    rw [references_cons, hno]
    exact ih hp
  | case3 u rest hsolid =>
    obtain ⟨rfl, rfl⟩ := Prod.mk.inj (Option.some.inj h)
    exact references_cons u rest

theorem references_of_next?_other {ts : List Token} {t : Token} {r : Rest ts}
    (h : next? ts = some (t, r)) (hno : t.isReference = false) :
    references ts = references r.1 := by
  rw [references_of_next? h, hno]
  rfl

/-! ### Readings that ask in a given order -/

namespace Reading

/-- The reading asks for references in the order of `refs`.  When every answer has the property
`P`, its result `a`, if it has one, and the references `rest` that it has not asked for satisfy
`Q rest a`. -/
def Consumes {α : Type} (P : Expr → Prop) (Q : List String → α → Prop) :
    List String → Reading α → Prop
  | refs, done a => Q refs a
  | _, fault _ => True
  | refs, ask reference next =>
    ∃ rest, refs = reference :: rest ∧ ∀ e, P e → Consumes P Q rest (next e)

variable {α β : Type} {P : Expr → Prop} {Q : List String → α → Prop}
  {Q' : List String → β → Prop} {refs : List String}

theorem Consumes.bind {r : Reading α} {f : α → Reading β} (h : r.Consumes P Q refs)
    (hf : ∀ rest a, Q rest a → (f a).Consumes P Q' rest) : (r.bind f).Consumes P Q' refs := by
  induction r generalizing refs with
  | done a => exact hf _ _ h
  | fault why => trivial
  | ask reference next ih =>
    obtain ⟨rest, hrefs, hnext⟩ := h
    exact ⟨rest, hrefs, fun e he => ih e (hnext e he)⟩

theorem Consumes.mono {r : Reading α} {Q₂ : List String → α → Prop} (h : r.Consumes P Q refs)
    (hq : ∀ rest a, Q rest a → Q₂ rest a) : r.Consumes P Q₂ refs := by
  have hbind := h.bind (f := done) hq
  rwa [bind_done] at hbind

end Reading

/-! ### Properties that pass from the parts to the whole -/

/-- The property passes from the parts of an expression to the whole, from a list to its members,
and holds of everything without parts. -/
structure Expr.Compositional (P : Expr → Prop) : Prop where
  number (text : String) : P (.number text)
  text (literal : String) : P (.text literal)
  bool (value : Bool) : P (.bool value)
  items {items : List Expr} : P (.list items) → ∀ e ∈ items, P e
  group {e : Expr} : P e → P (.group e)
  unary {op : UnaryOp} {e : Expr} : P e → P (.unary op e)
  percent {e : Expr} : P e → P (.percent e)
  binary {op : BinaryOp} {left right : Expr} : P left → P right → P (.binary op left right)
  conditional {cond onTrue onFalse : Expr} :
    P cond → P onTrue → P onFalse → P (.conditional cond onTrue onFalse)
  call {func : Function} {args : List Expr} : (∀ e ∈ args, P e) → P (.call func args)

/-- Every expression has the trivial property. -/
theorem Expr.Compositional.trivial : Compositional fun _ => True := by
  constructor <;> intros <;> exact True.intro

/-- The expression is a list of members. -/
def Expr.isList : Expr → Bool
  | .list _ => true
  | _ => false

theorem Expr.isList_eq_false {e : Expr} (h : ∀ items, e = .list items → False) :
    e.isList = false := by
  cases e with
  | list items => exact (h items rfl).elim
  | _ => rfl

/-- The property `P` passes to what the reader builds.  The reader makes sure that an operand is no
list, and members of a list become arguments of a call without the list: both have `S`.  The
condition and the values of a choice may be anything that has `P`. -/
structure Expr.Assembles (S P : Expr → Prop) : Prop where
  number (text : String) : P (.number text)
  text (literal : String) : P (.text literal)
  bool (value : Bool) : P (.bool value)
  scalar {e : Expr} : P e → e.isList = false → S e
  items {items : List Expr} : P (.list items) → ∀ e ∈ items, S e
  group {e : Expr} : S e → P (.group e)
  unary {op : UnaryOp} {e : Expr} : S e → P (.unary op e)
  percent {e : Expr} : S e → P (.percent e)
  binary {op : BinaryOp} {left right : Expr} : S left → S right → P (.binary op left right)
  conditional {cond onTrue onFalse : Expr} :
    P cond → P onTrue → P onFalse → P (.conditional cond onTrue onFalse)
  call {func : Function} {args : List Expr} : (∀ e ∈ args, S e) → P (.call func args)

theorem Expr.Compositional.assembles {P : Expr → Prop} (hP : Compositional P) : Assembles P P where
  number := hP.number
  text := hP.text
  bool := hP.bool
  scalar he _ := he
  items := hP.items
  group := hP.group
  unary := hP.unary
  percent := hP.percent
  binary := hP.binary
  conditional := hP.conditional
  call := hP.call

namespace Expr.Assembles

variable {S P : Expr → Prop}

theorem grouped (hP : Assembles S P) {e : Expr} (he : P e) : P (grouped e) := by
  unfold Formula.grouped
  split
  case h_1 => exact he
  case h_2 hscalar => exact hP.group (hP.scalar he (isList_eq_false hscalar))

theorem argumentItems (hP : Assembles S P) {e : Expr} (he : P e) :
    ∀ item ∈ argumentItems e, S item := by
  unfold Formula.argumentItems
  split
  case h_1 => exact hP.items he
  case h_2 hscalar =>
    intro item hitem
    rw [List.mem_singleton.mp hitem]
    exact hP.scalar he (isList_eq_false hscalar)

theorem getD_zero (hP : Assembles S P) {arg : Option Expr} (harg : ∀ e ∈ arg, P e) :
    P (arg.getD (.number "0")) := by
  cases arg with
  | none => exact hP.number "0"
  | some e => exact harg e rfl

theorem conditionalOf (hP : Assembles S P) {args : List (Option Expr)} {e : Expr}
    (hargs : ∀ arg ∈ args, ∀ a ∈ arg, P a) (h : conditionalOf args = .ok e) : P e := by
  unfold Formula.conditionalOf at h
  split at h
  · -- two arguments: the value that is left out is false
    rename_i cond onTrue
    split at h
    · simp at h
    · rw [← Except.ok.inj h]
      exact hP.conditional (hargs _ (by simp) _ rfl) (hP.getD_zero (hargs _ (by simp)))
        (hP.bool false)
  · rename_i cond onTrue onFalse
    split at h
    · simp at h
    · rw [← Except.ok.inj h]
      exact hP.conditional (hargs _ (by simp) _ rfl) (hP.getD_zero (hargs _ (by simp)))
        (hP.getD_zero (hargs _ (by simp)))
  · simp at h

/-- A call has the property when all its arguments have it. -/
theorem apply (hP : Assembles S P) {f : Function} {args : List (Option Expr)} {e : Expr}
    (hargs : ∀ arg ∈ args, ∀ a ∈ arg, P a) (h : f.apply args = .ok e) : P e := by
  unfold Function.apply at h
  split at h
  · exact hP.conditionalOf hargs h
  · split at h
    · simp at h
    · rw [← Except.ok.inj h]
      refine hP.call fun item hitem => ?_
      obtain ⟨a, ha, hmem⟩ := List.mem_flatMap.mp hitem
      obtain ⟨arg, harg, heq⟩ := List.mem_filterMap.mp ha
      exact hP.argumentItems (hargs arg harg a heq) item hmem

end Expr.Assembles

/-! ### What the reader asks for and builds -/

/-- An expression with the property, and the references of what is left. -/
def Leaves (P : Expr → Prop) {ts : List Token} (rest : List String) (p : Expr × Rest ts) : Prop :=
  P p.1 ∧ rest = references p.2.1

/-- The same for an expression that may be missing. -/
def LeavesOption (P : Expr → Prop) {ts : List Token} (rest : List String) :
    Option (Expr × Rest ts) → Prop
  | none => rest = references ts
  | some p => Leaves P rest p

theorem LeavesOption.fst {P : Expr → Prop} {ts : List Token} {rest : List String}
    {arg : Option (Expr × Rest ts)} (h : LeavesOption P rest arg) :
    ∀ a ∈ arg.map Prod.fst, P a := by
  cases arg with
  | none => simp
  | some p =>
    intro a ha
    rw [← Option.some.inj ha]
    exact h.1

theorem LeavesOption.eq_references {P : Expr → Prop} {ts : List Token} {r : Rest ts}
    {rest : List String} {arg : Option (Expr × Rest r.1)} (h : LeavesOption P rest arg) :
    rest = references (r.after arg).1 := by
  cases arg with
  | none => exact h
  | some p => exact h.2

section

variable {S P : Expr → Prop}

theorem scalar_consumes (hP : Expr.Assembles S P) {e : Expr} (he : P e) (refs : List String) :
    (scalar e).Consumes P (fun rest a => S a ∧ rest = refs) refs := by
  unfold scalar
  split
  case h_1 => trivial
  case h_2 hscalar => exact ⟨hP.scalar he (Expr.isList_eq_false hscalar), rfl⟩

theorem parsePercents_consumes (hP : Expr.Assembles S P) {ts : List Token} (e : Expr)
    (r : Rest ts) (he : P e) :
    (parsePercents e r).Consumes P (Leaves P) (references r.1) := by
  induction e, r using parsePercents.induct with
  | case1 e r hend =>
    rw [parsePercents, hend]
    exact ⟨he, rfl⟩
  | case2 e r t r₁ hnext hpost ih =>
    rw [parsePercents, hnext]
    simp only [hpost, if_true]
    rw [references_of_next?_other hnext (isReference_of_kind (by simp [hpost]))]
    refine (scalar_consumes hP he _).bind fun rest a ha => ?_
    rw [ha.2]
    exact ih a (hP.percent ha.1)
  | case3 e r t r₁ hnext hother =>
    rw [parsePercents, hnext]
    simp only [hother, if_false]
    exact ⟨he, rfl⟩

/-! One lemma for each construct, from what is known of its parts. -/

/-- An operator of the level: the right operand, then the operators after it. -/
theorem consumes_infix (hP : Expr.Assembles S P) {ts : List Token} {n : Nat} {left : Expr}
    {r : Rest ts} {t : Token} {r₁ : Rest r.1} {op : BinaryOp} (hnext : next? r.1 = some (t, r₁))
    (hop : t.binaryOp? = some op) (hn : op ∈ BinaryOp.level n)
    (hright : (parseLevel n r₁.1).Consumes P (Leaves P) (references r₁.1))
    (hrest : ∀ (r₂ : Rest r₁.1) (l e : Expr), P (.binary op l e) →
      (parseInfix n (.binary op l e) (r.trans (r₁.trans r₂))).Consumes P (Leaves P)
        (references r₂.1)) (hleft : P left) :
    (parseInfix n left r).Consumes P (Leaves P) (references r.1) := by
  rw [parseInfix, hnext]
  simp only [hop, hn, if_true]
  rw [references_of_next?_other hnext (isReference_of_binaryOp? hop)]
  refine hright.bind fun rest p hp => ?_
  refine (scalar_consumes hP hleft rest).bind fun _ l hl => ?_
  refine (scalar_consumes hP hp.1 _).bind fun _ e he => ?_
  rw [he.2, hl.2, hp.2]
  exact hrest p.2 l e (hP.binary hl.1 he.1)

theorem consumes_sign (hP : Expr.Assembles S P) {ts : List Token} {t : Token} {r : Rest ts}
    {op : UnaryOp} (hnext : next? ts = some (t, r)) (hkind : t.kind = .prefixOp)
    (hop : UnaryOp.ofSymbol? t.value = some op)
    (h : (parseUnary r.1).Consumes P (Leaves P) (references r.1)) :
    (parseUnary ts).Consumes P (Leaves P) (references ts) := by
  rw [parseUnary, hnext]
  simp only [hkind, hop, if_true]
  rw [references_of_next?_other hnext (isReference_of_kind (by simp [hkind]))]
  refine h.bind fun rest p hp => ?_
  refine (scalar_consumes hP hp.1 rest).bind fun _ e he => ?_
  exact ⟨hP.unary he.1, he.2.trans hp.2⟩

/-- A reference is asked for, and its answer is the expression. -/
theorem consumes_reference {ts : List Token} {t : Token} {r : Rest ts}
    (hnext : next? ts = some (t, r)) (hsub : t.subkind = .range) (hkind : t.kind = .operand) :
    (parsePrimary ts).Consumes P (Leaves P) (references ts) := by
  rw [parsePrimary, hnext]
  simp only [hsub, hkind]
  refine ⟨references r.1, ?_, fun e he => ⟨he, rfl⟩⟩
  rw [references_of_next? hnext, isReference_iff.mpr ⟨hkind, hsub⟩]
  rfl

/-- Brackets: what is inside, and the closer. -/
theorem consumes_group (hP : Expr.Assembles S P) {ts : List Token} {t : Token} {r : Rest ts}
    (hnext : next? ts = some (t, r)) (hsub : t.subkind = .opener) (hkind : t.kind = .paren)
    (h : (parseExpression r.1).Consumes P (LeavesOption P) (references r.1)) :
    (parsePrimary ts).Consumes P (Leaves P) (references ts) := by
  rw [parsePrimary, hnext]
  simp only [hsub, hkind]
  rw [references_of_next?_other hnext (isReference_of_kind (by simp [hkind]))]
  refine h.bind fun rest inner hinner => ?_
  rcases inner with _ | ⟨e, r₁⟩
  · trivial
  simp only
  split
  case h_1 => trivial
  case h_2 u r₂ hclose =>
    split
    case isFalse => trivial
    case isTrue hcloser =>
      refine ⟨hP.grouped hinner.1, ?_⟩
      rw [hinner.2, references_of_next?_other hclose (isReference_of_is hcloser (by decide))]
      rfl

/-- An argument, and behind it a comma and more arguments, or the closer of the call. -/
theorem consumes_argument (hP : Expr.Assembles S P) {ts : List Token} {f : Function}
    {opener : String} {args : List (Option Expr)} {r : Rest ts}
    (h : (parseExpression r.1).Consumes P (LeavesOption P) (references r.1))
    (hrest : ∀ (arg : Option (Expr × Rest r.1)) (r₁ : Rest (r.after arg).1),
      (∀ a ∈ args ++ [arg.map Prod.fst], ∀ e ∈ a, P e) →
      (parseArguments f opener (args ++ [arg.map Prod.fst]) ((r.after arg).trans r₁)).Consumes P
        (Leaves P) (references r₁.1))
    (hargs : ∀ arg ∈ args, ∀ a ∈ arg, P a) :
    (parseArguments f opener args r).Consumes P (Leaves P) (references r.1) := by
  rw [parseArguments]
  refine h.bind fun rest arg harg => ?_
  have hmore : ∀ a ∈ args ++ [arg.map Prod.fst], ∀ e ∈ a, P e := by
    intro a ha
    rcases List.mem_append.mp ha with hold | hnew
    · exact hargs a hold
    · rw [List.mem_singleton.mp hnew]
      exact harg.fst
  cases hnext : next? (r.after arg).1 with
  | none => trivial
  | some p =>
    obtain ⟨t, r₁⟩ := p
    simp only
    split
    case isTrue hsep =>
      rw [harg.eq_references, references_of_next?_other hnext (isReference_of_isArgSep hsep)]
      exact hrest arg r₁ hmore
    case isFalse =>
      split
      case isFalse => trivial
      case isTrue hclose =>
        have hno := isReference_of_is hclose (by decide)
        cases happly : f.apply (args ++ [arg.map Prod.fst]) with
        | error why => trivial
        | ok e =>
          refine ⟨hP.apply hmore happly, ?_⟩
          rw [harg.eq_references, references_of_next?_other hnext hno]
          rfl

/-- **Every function of the reader asks for the references that it passes**, in order, and builds
only expressions with a property that passes from parts to wholes. -/
theorem parse_consumes (hP : Expr.Assembles S P) :
    (∀ ts, (parseExpression ts).Consumes P (LeavesOption P) (references ts)) ∧
    (∀ level ts, (parseLevel level ts).Consumes P (Leaves P) (references ts)) ∧
    (∀ ts n left (r : Rest ts), P left →
      (parseInfix n left r).Consumes P (Leaves P) (references r.1)) ∧
    (∀ ts, (parseUnary ts).Consumes P (Leaves P) (references ts)) ∧
    (∀ ts, (parsePrimary ts).Consumes P (Leaves P) (references ts)) ∧
    (∀ ts f opener args (r : Rest ts), (∀ arg ∈ args, ∀ a ∈ arg, P a) →
      (parseArguments f opener args r).Consumes P (Leaves P) (references r.1)) := by
  -- the cases are those of the reader, in the order of its functions
  apply parseExpression.mutual_induct
  case case1 =>
    intro ts hend
    rw [parseExpression, hend]
    exact rfl
  case case2 =>
    intro ts t r hnext hends
    rw [parseExpression, hnext]
    simp only [hends, if_true]
    exact rfl
  case case3 =>
    intro ts t r hnext hends ih
    rw [parseExpression, hnext]
    simp only [hends]
    exact ih.bind fun rest p hp => hp
  case case4 =>
    intro ts ih
    rw [parseLevel]
    refine ih.bind fun rest p hp => ?_
    rw [hp.2]
    exact parsePercents_consumes hP _ _ hp.1
  case case5 =>
    intro ts n ihlevel ihinfix
    rw [parseLevel]
    refine ihlevel.bind fun rest p hp => ?_
    rw [hp.2]
    exact ihinfix _ _ hp.1
  case case6 =>
    intro ts n left r hend hleft
    rw [parseInfix, hend]
    exact ⟨hleft, rfl⟩
  case case7 =>
    intro ts n left r t r₁ hnext hop hleft
    rw [parseInfix, hnext]
    simp only [hop]
    exact ⟨hleft, rfl⟩
  case case8 =>
    intro ts n left r t r₁ hnext op hop hprec ihright ihrest hleft
    exact consumes_infix hP hnext hop hprec ihright ihrest hleft
  case case9 =>
    intro ts n left r t r₁ hnext op hop hprec hleft
    rw [parseInfix, hnext]
    simp only [hop, hprec, if_false]
    exact ⟨hleft, rfl⟩
  case case10 =>
    intro ts hend ih
    rw [parseUnary, hend]
    exact ih
  case case11 =>
    intro ts t r hnext hkind hop
    rw [parseUnary, hnext]
    simp only [hkind, hop, if_true]
    trivial
  case case12 =>
    intro ts t r hnext hkind op hop ih
    exact consumes_sign hP hnext hkind hop ih
  case case13 =>
    intro ts t r hnext hkind ih
    rw [parseUnary, hnext]
    simp only [hkind, if_false]
    exact ih
  case case14 =>
    intro ts hend
    rw [parsePrimary, hend]
    trivial
  case case15 =>
    intro ts t r hnext hsub hkind
    exact consumes_reference hnext hsub hkind
  -- the three kinds of literals
  case case16 =>
    intro ts t r hnext hsub hkind
    rw [parsePrimary, hnext]
    simp only [hsub, hkind]
    exact ⟨hP.text _, references_of_next?_other hnext (isReference_of_subkind (by simp [hsub]))⟩
  case case17 =>
    intro ts t r hnext hsub hkind
    rw [parsePrimary, hnext]
    simp only [hsub, hkind]
    exact ⟨hP.number _, references_of_next?_other hnext (isReference_of_subkind (by simp [hsub]))⟩
  case case18 =>
    intro ts t r hnext hsub hkind
    rw [parsePrimary, hnext]
    simp only [hsub, hkind]
    exact ⟨hP.bool _, references_of_next?_other hnext (isReference_of_subkind (by simp [hsub]))⟩
  case case19 =>
    intro ts t r hnext hsub hkind hname
    rw [parsePrimary, hnext]
    simp only [hsub, hkind, hname]
    trivial
  case case20 =>
    intro ts t r hnext hsub hkind f hname ih
    rw [parsePrimary, hnext]
    simp only [hsub, hkind, hname]
    rw [references_of_next?_other hnext (isReference_of_kind (by simp [hkind]))]
    exact ih (by simp)
  case case21 =>
    intro ts t r hnext hsub hkind ih
    exact consumes_group hP hnext hsub hkind ih
  case case22 =>
    intro ts t r hnext hends h₁ h₂ h₃ h₄ h₅ h₆
    rw [parsePrimary, hnext]
    simp only [hends, if_true]
    trivial
  case case23 =>
    intro ts t r hnext hends h₁ h₂ h₃ h₄ h₅ h₆
    rw [parsePrimary, hnext]
    simp only [hends]
    trivial
  case case24 =>
    intro ts f opener args r iharg ihrest hargs
    exact consumes_argument hP iharg ihrest hargs

/-- **A whole formula asks for all its references**, in order and each once, and the expression
built is one that might be an operand. -/
theorem parseFormula_assembles (hP : Expr.Assembles S P) (ts : List Token) :
    (parseFormula ts).Consumes P (fun rest e => S e ∧ rest = []) (references ts) := by
  refine ((parse_consumes hP).1 ts).bind fun rest parsed hparsed => ?_
  rcases parsed with _ | ⟨e, r⟩
  · simp only
    split
    · trivial
    · trivial
    · next heq => simp at heq
  · simp only
    cases hend : next? r.1 with
    | some p => trivial
    | none =>
      have hnone : rest = [] := by rw [hparsed.2, references_eq_nil_of_next? hend]
      rw [hnone]
      exact scalar_consumes hP hparsed.1 []

/-- So the expression has every property that all the answers have and that passes from parts to
wholes. -/
theorem parseFormula_consumes (hP : Expr.Compositional P) (ts : List Token) :
    (parseFormula ts).Consumes P (fun rest e => P e ∧ rest = []) (references ts) :=
  parseFormula_assembles hP.assembles ts

end

/-- The result of a reading that is answered without effects. -/
theorem Reading.Consumes.of_run {ε α : Type} {P : Expr → Prop} {Q : List String → α → Prop}
    {resolve : String → Except ε Expr} {raise : Fault → ε} {refs : List String} {r : Reading α}
    {a : α} (h : r.Consumes P Q refs) (hP : ∀ ref ∈ refs, ∀ e, resolve ref = .ok e → P e)
    (hrun : r.run resolve (fun why => .error (raise why)) = .ok a) : ∃ rest, Q rest a := by
  induction r generalizing refs with
  | done b =>
    rw [← Except.ok.inj hrun]
    exact ⟨refs, h⟩
  | fault why => simp [Reading.run] at hrun
  | ask reference next ih =>
    obtain ⟨rest, rfl, hnext⟩ := h
    rw [Reading.run] at hrun
    cases hres : resolve reference with
    | error why => rw [hres] at hrun; cases hrun
    | ok e =>
      rw [hres] at hrun
      have he : P e := hP reference List.mem_cons_self e hres
      exact ih e (hnext e he) (fun ref href => hP ref (List.mem_cons_of_mem _ href)) hrun

end ReportCompiler.Formula
