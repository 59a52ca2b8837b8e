import ReportCompiler.Proofs.Target.Reader

/-!
# Reading in front of something else

A reader looks at no more than one lexeme behind what it reads.  So what it finds in a list of
lexemes it finds in the same way when more lexemes follow, unless nothing was left of the list and
the first new lexeme goes on with the expression.

The recursion of the reader is opened here once, with one lemma for each of its cases.

## Main definitions

* `Local`, `Closed` - the result does not change in front of lexemes that do not go on with it, or
  in front of any lexemes.

## Main results

* `readPrimary_append` - a primary is read in the same way in front of what does not go on with it.
-/

namespace ReportCompiler.Target

open Formula (BinaryOp UnaryOp Strength)

/-- The strength of what `readLevel` reads. -/
def levelStrength : Nat → Strength
  | 0 => .unary
  | n + 1 => leftLevel n

/-- What `o` finds in `ls` is found in the same way in front of everything that does not go on with
it. -/
def Local {α : Type} {ls : List Lexeme} (σ : Strength) (o : Option (α × Left ls))
    (o' : (rest : List Lexeme) → Option (α × Left (ls ++ rest))) : Prop :=
  ∀ ⦃a r⦄ (rest : List Lexeme), o = some (a, r) → (r.1 = [] → Stops σ rest) →
    Gives (o' rest) a (r.1 ++ rest)

/-- What `o` finds in `ls` is found in the same way in front of everything. -/
def Closed {α : Type} {ls : List Lexeme} (o : Option (α × Left ls))
    (o' : (rest : List Lexeme) → Option (α × Left (ls ++ rest))) : Prop :=
  ∀ ⦃a r⦄ (rest : List Lexeme), o = some (a, r) → Gives (o' rest) a (r.1 ++ rest)

/-- Choices are read locally. -/
def LocalTest (ls : List Lexeme) : Prop :=
  Local .conditional (readTest ls) fun rest => readTest (ls ++ rest)

/-- Comparisons are read locally. -/
def LocalComparison (ls : List Lexeme) : Prop :=
  Local .comparison (readComparison ls) fun rest => readComparison (ls ++ rest)

/-- Sums and products are read locally. -/
def LocalLevel (n : Nat) (ls : List Lexeme) : Prop :=
  Local (levelStrength n) (readLevel n ls) fun rest => readLevel n (ls ++ rest)

/-- The operators of a level are read locally. -/
def LocalInfix (ls : List Lexeme) (n : Nat) (t : Tree) (r : Left ls) : Prop :=
  ∀ ⦃u r'⦄ (rest : List Lexeme), readInfix n t r = some (u, r') →
    (r'.1 = [] → Stops (leftLevel n) rest) → GoesOn n t (r.1 ++ rest) u (r'.1 ++ rest)

/-- Signs are read locally. -/
def LocalUnary (ls : List Lexeme) : Prop :=
  Local .unary (readUnary ls) fun rest => readUnary (ls ++ rest)

/-- Powers are read locally. -/
def LocalPower (ls : List Lexeme) : Prop :=
  Local .power (readPower ls) fun rest => readPower (ls ++ rest)

/-- Primaries are read locally. -/
def LocalPrimary (ls : List Lexeme) : Prop :=
  Local .atom (readPrimary ls) fun rest => readPrimary (ls ++ rest)

/-- Calls, attributes and subscripts are read locally. -/
def LocalTrailers (ls : List Lexeme) (t : Tree) (r : Left ls) : Prop :=
  ∀ ⦃u r'⦄ (rest : List Lexeme), readTrailers t r = some (u, r') →
    (r'.1 = [] → Stops .atom rest) → Trails t (r.1 ++ rest) u (r'.1 ++ rest)

/-- Items up to their closing bracket are read in front of everything. -/
def ClosedItems (s : Symbol) (ls : List Lexeme) : Prop :=
  Closed (readItems s ls) fun rest => readItems s (ls ++ rest)

/-- Atoms are read in front of everything. -/
def ClosedAtom (ls : List Lexeme) : Prop :=
  Closed (readAtom ls) fun rest => readAtom (ls ++ rest)

theorem localTest (ls : List Lexeme) (h₁ : LocalComparison ls)
    (h₂ : ∀ (r : Left ls) (r₁ : Left r.1), LocalComparison r₁.1)
    (h₃ : ∀ (r : Left ls) (r₁ : Left r.1) (r₂ : Left r₁.1) (r₃ : Left r₂.1), LocalTest r₃.1) :
    LocalTest ls := by
  intro t r rest h hstops
  rw [readTest] at h
  obtain ⟨⟨t₁, a⟩, ht, h⟩ := Option.bind_eq_some_iff.mp h
  dsimp only at h
  split at h
  case h_1 hif =>
    obtain ⟨rfl, rfl⟩ := Prod.mk.inj (Option.some.inj h)
    have hcomparison := h₁ rest ht fun hnil => (hstops hnil).mono (by decide)
    exact gives_test hcomparison
      (expect_append hif fun hnil => (hstops hnil).expect_eq_none (Nat.le_refl _))
  case h_2 b hif =>
    obtain ⟨⟨c, d⟩, hc, h⟩ := Option.bind_eq_some_iff.mp h
    obtain ⟨e, helse, h⟩ := Option.bind_eq_some_iff.mp h
    obtain ⟨⟨u, f⟩, hu, h⟩ := Option.bind_eq_some_iff.mp h
    obtain ⟨rfl, rfl⟩ := Prod.mk.inj (Option.some.inj h)
    -- The words `if` and `else` are there, so what follows the parts is not new.
    have ha : a.1 = .if :: b.1 := expect_eq_some hif
    have hd : d.1 = .else :: e.1 := expect_eq_some helse
    have ht' := h₁ rest ht (by simp [ha])
    have hc' := h₂ a b rest hc (by simp [hd])
    rw [ha, List.cons_append] at ht'
    rw [hd, List.cons_append] at hc'
    exact gives_test_choice ht' hc' (h₃ a b d e rest hu hstops)

theorem localComparison (ls : List Lexeme) (h₁ : LocalLevel 2 ls)
    (h₂ : ∀ (r : Left ls) (r₁ : Left r.1), LocalLevel 2 r₁.1) : LocalComparison ls := by
  intro t r rest h hstops
  rw [readComparison] at h
  obtain ⟨⟨t₁, a⟩, ht, h⟩ := Option.bind_eq_some_iff.mp h
  dsimp only at h
  split at h
  case h_1 hop =>
    obtain ⟨rfl, rfl⟩ := Prod.mk.inj (Option.some.inj h)
    have hlevel := h₁ rest ht fun hnil => (hstops hnil).mono (by decide)
    exact gives_comparison hlevel
      (operator?_append hop fun hnil => (hstops hnil).operator?_eq_none (Nat.le_refl _))
  case h_2 op b hop =>
    obtain ⟨⟨u, d⟩, hu, h⟩ := Option.bind_eq_some_iff.mp h
    obtain ⟨rfl, rfl⟩ := Prod.mk.inj (Option.some.inj h)
    -- The operator is there, so the left operand ends in front of it whatever follows.
    obtain ⟨s, ha, hs⟩ := operator?_eq_some hop
    have ht' := h₁ rest ht (by simp [ha])
    rw [ha, List.cons_append] at ht'
    exact gives_comparison_step ht' hs
      (h₂ a b rest hu fun hnil => (hstops hnil).mono (by decide))

theorem localLevel_zero (ls : List Lexeme) (h₁ : LocalUnary ls) : LocalLevel 0 ls := by
  intro t r rest h hstops
  rw [readLevel] at h
  exact gives_level_zero (h₁ rest h hstops)

theorem leftLevel_rank_le (n : Nat) : (leftLevel n).rank ≤ (levelStrength n).rank :=
  match n with
  | 0 => by decide
  | 1 => by decide
  | _ + 2 => Nat.le_refl _

theorem localLevel_succ (ls : List Lexeme) (n : Nat) (h₁ : LocalLevel n ls)
    (h₂ : ∀ (t : Tree) (r : Left ls), LocalInfix ls n t r) : LocalLevel (n + 1) ls := by
  intro u r rest h hstops
  rw [readLevel] at h
  obtain ⟨⟨t, a⟩, ht, h⟩ := Option.bind_eq_some_iff.mp h
  refine gives_level_succ (h₁ rest ht fun hnil => ?_) (h₂ t a rest h hstops)
  -- With nothing left there are no operators either.
  have hop : operator? (leftLevel n) a.1 = none := by rw [hnil]; rfl
  dsimp only at h
  rw [readInfix, hop] at h
  obtain ⟨rfl, rfl⟩ := Prod.mk.inj (Option.some.inj h)
  exact Stops.mono (hstops hnil) (leftLevel_rank_le n)

theorem localInfix_stop (ls : List Lexeme) (n : Nat) (t : Tree) (r : Left ls)
    (hop : operator? (leftLevel n) r.1 = none) : LocalInfix ls n t r := by
  intro u r' rest h hstops
  rw [readInfix, hop] at h
  obtain ⟨rfl, rfl⟩ := Prod.mk.inj (Option.some.inj h)
  exact goesOn_stop
    (operator?_append hop fun hnil => (hstops hnil).operator?_eq_none (Nat.le_refl _))

theorem localInfix_step (ls : List Lexeme) (n : Nat) (t : Tree) (r : Left ls) (op : BinaryOp)
    (r₁ : Left r.1) (hop : operator? (leftLevel n) r.1 = some (op, r₁)) (h₁ : LocalLevel n r₁.1)
    (h₂ : ∀ (u : Tree) (r₂ : Left r₁.1),
      LocalInfix ls n (.binary op t u) (r.trans (r₁.trans r₂))) :
    LocalInfix ls n t r := by
  intro v r' rest h hstops
  rw [readInfix, hop] at h
  obtain ⟨⟨u, a⟩, hu, h⟩ := Option.bind_eq_some_iff.mp h
  obtain ⟨s, hr, hs⟩ := operator?_eq_some hop
  rw [hr, List.cons_append]
  refine goesOn_step hs (h₁ rest hu fun hnil => ?_) (h₂ u a rest h hstops)
  -- Where nothing is left behind the right operand, the loop ends with it.
  have hnone : operator? (leftLevel n) (r.trans (r₁.trans a)).1 = none := by
    rw [Left.trans_val, Left.trans_val, hnil]
    rfl
  dsimp only at h
  rw [readInfix, hnone] at h
  obtain ⟨rfl, rfl⟩ := Prod.mk.inj (Option.some.inj h)
  exact Stops.mono (hstops hnil) (leftLevel_rank_le n)

theorem localUnary (ls : List Lexeme) (hsign : sign? ls = none) (h₁ : LocalPower ls) :
    LocalUnary ls := by
  intro t r rest h hstops
  rw [readUnary, hsign] at h
  have hpower := h₁ rest h fun hnil => (hstops hnil).mono (by decide)
  -- A sign would stand first, and what is first does not change.
  refine gives_unary hpower ?_
  cases ls with
  | nil => exact absurd r.2 (Nat.not_lt_zero _)
  | cons x ls =>
    cases x with
    | symbol s => simpa [sign?] using hsign
    | _ => rfl

theorem localUnary_sign (ls : List Lexeme) (op : UnaryOp) (r : Left ls)
    (hsign : sign? ls = some (op, r)) (h₁ : LocalUnary r.1) : LocalUnary ls := by
  intro t r' rest h hstops
  rw [readUnary, hsign] at h
  obtain ⟨⟨u, a⟩, hu, h⟩ := Option.bind_eq_some_iff.mp h
  obtain ⟨rfl, rfl⟩ := Prod.mk.inj (Option.some.inj h)
  obtain ⟨s, hls, hs⟩ := sign?_eq_some hsign
  have hunary := gives_unary_sign hs (h₁ rest hu hstops)
  rw [← List.cons_append, ← hls] at hunary
  exact hunary

theorem localPower (ls : List Lexeme) (h₁ : LocalPrimary ls)
    (h₂ : ∀ (r : Left ls) (r₁ : Left r.1), LocalUnary r₁.1) : LocalPower ls := by
  intro t r rest h hstops
  rw [readPower] at h
  obtain ⟨⟨t₁, a⟩, ht, h⟩ := Option.bind_eq_some_iff.mp h
  dsimp only at h
  split at h
  case h_1 hop =>
    obtain ⟨rfl, rfl⟩ := Prod.mk.inj (Option.some.inj h)
    have hprimary := h₁ rest ht fun hnil => (hstops hnil).mono (by decide)
    exact gives_power hprimary
      (operator?_append hop fun hnil => (hstops hnil).operator?_eq_none (Nat.le_refl _))
  case h_2 op b hop =>
    obtain ⟨⟨u, d⟩, hu, h⟩ := Option.bind_eq_some_iff.mp h
    obtain ⟨rfl, rfl⟩ := Prod.mk.inj (Option.some.inj h)
    obtain ⟨s, ha, hs⟩ := operator?_eq_some hop
    have ht' := h₁ rest ht (by simp [ha])
    rw [ha, List.cons_append] at ht'
    exact gives_power_step ht' hs (h₂ a b rest hu fun hnil => (hstops hnil).unary)

theorem localPrimary (ls : List Lexeme) (h₁ : ClosedAtom ls)
    (h₂ : ∀ (t : Tree) (r : Left ls), LocalTrailers ls t r) : LocalPrimary ls := by
  intro u r rest h hstops
  rw [readPrimary] at h
  obtain ⟨⟨t, a⟩, ht, h⟩ := Option.bind_eq_some_iff.mp h
  exact gives_primary (h₁ rest ht) (h₂ t a rest h hstops)

theorem localTrailers_attribute (ls : List Lexeme) (t : Tree) (r : Left ls) (r₁ : Left r.1)
    (hdot : expect (.symbol .dot) r.1 = some r₁)
    (h₁ : ∀ (n : String) (r₂ : Left r₁.1),
      LocalTrailers ls (.attribute t n) (r.trans (r₁.trans r₂))) :
    LocalTrailers ls t r := by
  intro u r' rest h hstops
  rw [readTrailers, hdot] at h
  obtain ⟨⟨n, a⟩, hn, h⟩ := Option.bind_eq_some_iff.mp h
  rw [expect_eq_some hdot, name?_eq_some hn]
  exact trails_attribute (h₁ n a rest h hstops)

theorem localTrailers_call (ls : List Lexeme) (t : Tree) (r : Left ls)
    (hdot : expect (.symbol .dot) r.1 = none) (r₁ : Left r.1)
    (hcall : expect (.symbol .leftBracket) r.1 = some r₁) (h₁ : ClosedItems .rightBracket r₁.1)
    (h₂ : ∀ (args : List Tree) (r₂ : Left r₁.1),
      LocalTrailers ls (.call t args) (r.trans (r₁.trans r₂))) :
    LocalTrailers ls t r := by
  intro u r' rest h hstops
  rw [readTrailers, hdot] at h
  simp only [hcall] at h
  obtain ⟨⟨args, a⟩, hargs, h⟩ := Option.bind_eq_some_iff.mp h
  rw [expect_eq_some hcall, List.cons_append]
  exact trails_call (h₁ rest hargs) (h₂ args a rest h hstops)

theorem localTrailers_subscript (ls : List Lexeme) (t : Tree) (r : Left ls)
    (hdot : expect (.symbol .dot) r.1 = none)
    (hcall : expect (.symbol .leftBracket) r.1 = none) (r₁ : Left r.1)
    (hindex : expect (.symbol .leftSquare) r.1 = some r₁) (h₁ : LocalTest r₁.1)
    (h₂ : ∀ (i : Tree) (r₂ : Left r₁.1) (r₃ : Left r₂.1),
      LocalTrailers ls (.subscript t i) (r.trans (r₁.trans (r₂.trans r₃)))) :
    LocalTrailers ls t r := by
  intro u r' rest h hstops
  rw [readTrailers, hdot] at h
  simp only [hcall, hindex] at h
  obtain ⟨⟨i, a⟩, hi, h⟩ := Option.bind_eq_some_iff.mp h
  obtain ⟨b, hclose, h⟩ := Option.bind_eq_some_iff.mp h
  have ha : a.1 = .symbol .rightSquare :: b.1 := expect_eq_some hclose
  have hi' := h₁ rest hi (by simp [ha])
  rw [ha, List.cons_append] at hi'
  rw [expect_eq_some hindex, List.cons_append]
  exact trails_subscript hi' (h₂ i a b rest h hstops)

theorem localTrailers_stop (ls : List Lexeme) (t : Tree) (r : Left ls)
    (hdot : expect (.symbol .dot) r.1 = none)
    (hcall : expect (.symbol .leftBracket) r.1 = none)
    (hindex : expect (.symbol .leftSquare) r.1 = none) : LocalTrailers ls t r := by
  intro u r' rest h hstops
  rw [readTrailers, hdot] at h
  simp only [hcall, hindex] at h
  obtain ⟨rfl, rfl⟩ := Prod.mk.inj (Option.some.inj h)
  exact trails_stop
    (expect_append hdot fun hnil => (hstops hnil).expect_eq_none (Nat.le_refl _))
    (expect_append hcall fun hnil => (hstops hnil).expect_eq_none (Nat.le_refl _))
    (expect_append hindex fun hnil => (hstops hnil).expect_eq_none (Nat.le_refl _))

theorem closedItems_nil (s : Symbol) (ls : List Lexeme) (r : Left ls)
    (hclose : expect (.symbol s) ls = some r) : ClosedItems s ls := by
  intro ts r' rest h
  rw [readItems, hclose] at h
  obtain ⟨rfl, rfl⟩ := Prod.mk.inj (Option.some.inj h)
  have hls := expect_eq_some hclose
  have hnil : Gives (readItems s (.symbol s :: (r.1 ++ rest))) [] (r.1 ++ rest) := gives_items_nil
  rw [← List.cons_append, ← hls] at hnil
  exact hnil

theorem closedItems_cons (s : Symbol) (ls : List Lexeme) (hclose : expect (.symbol s) ls = none)
    (h₁ : LocalTest ls) (h₂ : ∀ (r : Left ls) (r₁ : Left r.1), ClosedItems s r₁.1) :
    ClosedItems s ls := by
  intro ts r rest h
  rw [readItems, hclose] at h
  obtain ⟨⟨t, a⟩, ht, h⟩ := Option.bind_eq_some_iff.mp h
  have hopen : expect (.symbol s) (ls ++ rest) = none :=
    expect_append hclose fun hnil => by subst hnil; exact absurd a.2 (Nat.not_lt_zero _)
  dsimp only at h
  split at h
  case h_1 b hcomma =>
    -- A comma: the item ends in front of it, and the others are closed.
    obtain ⟨⟨ts', d⟩, hts, h⟩ := Option.bind_eq_some_iff.mp h
    obtain ⟨rfl, rfl⟩ := Prod.mk.inj (Option.some.inj h)
    have ha : a.1 = .symbol .comma :: b.1 := expect_eq_some hcomma
    have ht' := h₁ rest ht (by simp [ha])
    rw [ha, List.cons_append] at ht'
    exact gives_items_cons hopen ht' (h₂ a b rest hts)
  case h_2 hcomma =>
    obtain ⟨b, hb, h⟩ := Option.map_eq_some_iff.mp h
    obtain ⟨rfl, rfl⟩ := Prod.mk.inj h
    have ha : a.1 = .symbol s :: b.1 := expect_eq_some hb
    have hs : s ≠ .comma := by
      rintro rfl
      rw [hb] at hcomma
      cases hcomma
    have ht' := h₁ rest ht (by simp [ha])
    rw [ha, List.cons_append] at ht'
    exact gives_items_last hopen ht' hs

theorem closedAtom_brackets (ls : List Lexeme) (h₁ : LocalTest ls) :
    ClosedAtom (.symbol .leftBracket :: ls) := by
  intro t r rest h
  rw [readAtom] at h
  obtain ⟨⟨t₁, a⟩, ht, h⟩ := Option.bind_eq_some_iff.mp h
  obtain ⟨b, hclose, h⟩ := Option.bind_eq_some_iff.mp h
  obtain ⟨rfl, rfl⟩ := Prod.mk.inj (Option.some.inj h)
  have ha : a.1 = .symbol .rightBracket :: b.1 := expect_eq_some hclose
  have ht' := h₁ rest ht (by simp [ha])
  rw [ha, List.cons_append] at ht'
  exact gives_atom_brackets ht'

theorem closedAtom_list (ls : List Lexeme) (h₁ : ClosedItems .rightSquare ls) :
    ClosedAtom (.symbol .leftSquare :: ls) := by
  intro t r rest h
  rw [readAtom] at h
  obtain ⟨⟨ts, a⟩, hts, h⟩ := Option.bind_eq_some_iff.mp h
  obtain ⟨rfl, rfl⟩ := Prod.mk.inj (Option.some.inj h)
  exact gives_atom_list (h₁ rest hts)

theorem closedAtom_single {x : Lexeme} {t : Tree} (ls : List Lexeme)
    (h : ∀ ls, readAtom (x :: ls) = some (t, .tail x ls)) : ClosedAtom (x :: ls) := by
  intro t' r rest ht
  rw [h] at ht
  obtain ⟨rfl, rfl⟩ := Prod.mk.inj (Option.some.inj ht)
  exact ⟨.tail x (ls ++ rest), h (ls ++ rest), rfl⟩

/-- Reading is local on every level of the grammar, and so for primaries. -/
theorem localPrimary_all (ls : List Lexeme) : LocalPrimary ls := by
  -- The cases come in the order of the reader's functions; the last one is what begins no atom.
  have hall := readTest.mutual_induct LocalTest LocalComparison LocalLevel LocalInfix LocalUnary
    LocalPower LocalPrimary LocalTrailers ClosedItems ClosedAtom
    localTest localComparison localLevel_zero localLevel_succ localInfix_stop localInfix_step
    localUnary localUnary_sign localPower localPrimary localTrailers_attribute localTrailers_call
    localTrailers_subscript localTrailers_stop closedItems_nil closedItems_cons
    (fun s ls => closedAtom_single ls fun ls => by rw [readAtom])
    (fun s ls => closedAtom_single ls fun ls => by rw [readAtom])
    (fun b ls => closedAtom_single ls fun ls => by rw [readAtom])
    (fun n ls => closedAtom_single ls fun ls => by rw [readAtom])
    closedAtom_brackets closedAtom_list
    (fun ls h₁ h₂ h₃ h₄ h₅ h₆ t r rest h => by
      rw [readAtom.eq_7 ls h₁ h₂ h₃ h₄ h₅ h₆] at h
      cases h)
  exact hall.2.2.2.2.2.2.1 ls

/-- **A primary is read in the same way** in front of what does not go on with it. -/
theorem readPrimary_append {ls rest : List Lexeme} {t : Tree} (h : Gives (readPrimary ls) t [])
    (hrest : Stops .atom rest) : Gives (readPrimary (ls ++ rest)) t rest := by
  obtain ⟨r, h, hr⟩ := h
  have hlocal := localPrimary_all ls rest h fun _ => hrest
  rwa [hr, List.nil_append] at hlocal

end ReportCompiler.Target
