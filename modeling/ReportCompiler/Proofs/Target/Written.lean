import ReportCompiler.Proofs.Target.Local

/-!
# Pieces of program text and the trees they stand for

A piece of program text has a tree and a strength: it can stand, without brackets, wherever the
grammar wants an expression of that strength or less.  Both are said through the reader.  A piece
of strength `σ` is read as its tree in front of everything that does not go on with an expression of
strength `σ`; for sums and products, whose operators group to the left, also in front of a further
operator of their own level.

With this reading of strength the ways in which pieces are put together - brackets, operators,
calls, choices - are one lemma each, and no lemma looks inside the pieces it is given.

## Main definitions

* `Written σ ls t` - the lexemes are a piece of strength `σ` with the tree `t`.
* `Spells σ text t` - the same of a text.
* `SpellsItems text ts` - the text is a list of items.

## Main results

* `Spells.weaken` - a piece can stand where less strength is wanted.
* `Spells.bracketed`, `Spells.sign`, `Spells.sum`, `Spells.product`, `Spells.comparison`,
  `Spells.power`, `Spells.choice`, `SpellsItems.call` - the ways of putting pieces together.
* `Spells.read?` - a piece is read as its tree.
-/

namespace ReportCompiler.Target

open Formula (BinaryOp UnaryOp Strength Expr Function)

/-! ### Pieces of lexemes -/

/-- The lexemes are read by `readLevel (n + 1)` as `t` and what operators of the level make of it.
-/
def WrittenLeft (n : Nat) (ls : List Lexeme) (t : Tree) : Prop :=
  ∀ ⦃rest u rest'⦄, Stops (levelStrength n) rest → GoesOn n t rest u rest' →
    Gives (readLevel (n + 1) (ls ++ rest)) u rest'

/-- **The lexemes are a piece of strength `σ`** with the tree `t`. -/
def Written : Strength → List Lexeme → Tree → Prop
  | .conditional, ls, t => ∀ ⦃rest⦄, Stops .conditional rest → Gives (readTest (ls ++ rest)) t rest
  | .comparison, ls, t =>
    ∀ ⦃rest⦄, Stops .comparison rest → Gives (readComparison (ls ++ rest)) t rest
  | .additive, ls, t => WrittenLeft 1 ls t
  | .multiplicative, ls, t => WrittenLeft 0 ls t
  | .unary, ls, t => ∀ ⦃rest⦄, Stops .unary rest → Gives (readUnary (ls ++ rest)) t rest
  | .power, ls, t => ∀ ⦃rest⦄, Stops .power rest → Gives (readPower (ls ++ rest)) t rest
  | .atom, ls, t => ∀ ⦃rest⦄, Stops .atom rest → Gives (readPrimary (ls ++ rest)) t rest

variable {ls l m r rest : List Lexeme} {t u v : Tree} {s : Symbol} {n : Nat}

theorem WrittenLeft.level (h : WrittenLeft n ls t) (hrest : Stops (leftLevel n) rest) :
    Gives (readLevel (n + 1) (ls ++ rest)) t rest :=
  h (hrest.mono (leftLevel_rank_le n)) (goesOn_stop (hrest.operator?_eq_none (Nat.le_refl _)))

theorem WrittenLeft.succ (h : WrittenLeft n ls t) : WrittenLeft (n + 1) ls t :=
  fun _ _ _ hrest hgoes => gives_level_succ (h.level hrest) hgoes

/-- A sign begins no primary. -/
theorem sign?_eq_none_of_readPower (h : Gives (readPower ls) t rest) : sign? ls = none := by
  cases hsign : sign? ls with
  | none => rfl
  | some p =>
    obtain ⟨s, hls, hs⟩ := sign?_eq_some hsign
    have hatom : readAtom ls = none := by
      rw [hls]
      cases s with
      | plus => rw [readAtom.eq_7] <;> simp
      | minus => rw [readAtom.eq_7] <;> simp
      | _ => cases hs
    obtain ⟨a, h, -⟩ := h
    rw [readPower, readPrimary, hatom] at h
    cases h

theorem Written.power_of_atom (h : Written .atom ls t) : Written .power ls t :=
  fun _ hrest => gives_power (h (hrest.mono (by decide))) (hrest.operator?_eq_none (Nat.le_refl _))

theorem Written.unary_of_power (h : Written .power ls t) : Written .unary ls t :=
  fun _ hrest =>
    have hpower := h (hrest.mono (by decide))
    gives_unary hpower (sign?_eq_none_of_readPower hpower)

theorem Written.multiplicative_of_unary (h : Written .unary ls t) : Written .multiplicative ls t :=
  fun _ _ _ hrest hgoes => gives_level_succ (gives_level_zero (h hrest)) hgoes

theorem Written.additive_of_multiplicative (h : Written .multiplicative ls t) :
    Written .additive ls t :=
  WrittenLeft.succ h

theorem Written.comparison_of_additive (h : Written .additive ls t) : Written .comparison ls t :=
  fun _ hrest =>
    gives_comparison (WrittenLeft.level h (hrest.mono (by decide)))
      (hrest.operator?_eq_none (Nat.le_refl _))

theorem Written.conditional_of_comparison (h : Written .comparison ls t) :
    Written .conditional ls t :=
  fun _ hrest => gives_test (h (hrest.mono (by decide))) (hrest.expect_eq_none (Nat.le_refl _))

/-- The next strength below. -/
def looser : Strength → Strength
  | .atom => .power
  | .power => .unary
  | .unary => .multiplicative
  | .multiplicative => .additive
  | .additive => .comparison
  | .comparison | .conditional => .conditional

theorem Written.looser {σ : Strength} (h : Written σ ls t) : Written (looser σ) ls t := by
  cases σ with
  | atom => exact h.power_of_atom
  | power => exact h.unary_of_power
  | unary => exact h.multiplicative_of_unary
  | multiplicative => exact h.additive_of_multiplicative
  | additive => exact h.comparison_of_additive
  | comparison => exact h.conditional_of_comparison
  | conditional => exact h

theorem exists_iterate_looser {σ τ : Strength} (h : τ.rank ≤ σ.rank) :
    ∃ k < 7, Nat.repeat looser k σ = τ := by
  revert h
  cases σ <;> cases τ <;> decide

/-- A piece can stand where less strength is wanted. -/
theorem Written.weaken {σ τ : Strength} (h : Written σ ls t) (hle : τ.rank ≤ σ.rank) :
    Written τ ls t := by
  -- one level down at a time
  obtain ⟨k, -, rfl⟩ := exists_iterate_looser hle
  clear hle
  induction k with
  | zero => exact h
  | succ k ih => exact ih.looser

/-! ### Putting lexemes together -/

theorem Stops.trails (h : Stops .atom ls) : Trails t ls t ls :=
  trails_stop (h.expect_eq_none (Nat.le_refl _)) (h.expect_eq_none (Nat.le_refl _))
    (h.expect_eq_none (Nat.le_refl _))

theorem written_atom (h : ∀ rest, Gives (readAtom (ls ++ rest)) t rest) : Written .atom ls t :=
  fun _ hrest => gives_primary (h _) hrest.trails

/-- A lexeme that is an atom by itself. -/
theorem gives_atom_single {x : Lexeme} (h : ∀ ls, readAtom (x :: ls) = some (t, .tail x ls))
    (rest : List Lexeme) : Gives (readAtom (x :: rest)) t rest :=
  ⟨.tail x rest, h rest, rfl⟩

theorem Written.bracketed (h : Written .conditional ls t) :
    Written .atom (.symbol .leftBracket :: (ls ++ [.symbol .rightBracket])) t := by
  refine written_atom fun rest => ?_
  rw [List.cons_append, List.append_assoc]
  exact gives_atom_brackets (h (stops_cons (by decide) rest))

theorem Written.sign {op : UnaryOp} (hs : s.sign? = some op) (h : Written .unary ls t) :
    Written .unary (.symbol s :: ls) (.unary op t) :=
  fun _ hrest => gives_unary_sign hs (h hrest)

/-- The next operand of a level is taken before the operators that follow it. -/
theorem WrittenLeft.operator {op : BinaryOp} (hl : WrittenLeft n l t)
    (hr : ∀ {rest}, Stops (levelStrength n) rest → Gives (readLevel n (r ++ rest)) u rest)
    (hs : s.operator? (leftLevel n) = some op)
    (hlt : (leftLevel n).rank < (levelStrength n).rank) :
    WrittenLeft n (l ++ .symbol s :: r) (.binary op t u) := by
  intro rest v rest' hrest hgoes
  rw [List.append_assoc, List.cons_append]
  refine hl (stops_cons ?_ _) (goesOn_step hs (hr hrest) hgoes)
  rw [reach_of_operator? hs]
  exact hlt

theorem Written.product {op : BinaryOp} (hl : Written .multiplicative l t) (hr : Written .unary r u)
    (hs : s.operator? .multiplicative = some op) :
    Written .multiplicative (l ++ .symbol s :: r) (.binary op t u) :=
  WrittenLeft.operator hl (fun hrest => gives_level_zero (hr hrest)) hs (by decide)

theorem Written.sum {op : BinaryOp} (hl : Written .additive l t) (hr : Written .multiplicative r u)
    (hs : s.operator? .additive = some op) :
    Written .additive (l ++ .symbol s :: r) (.binary op t u) :=
  WrittenLeft.operator hl (fun hrest => WrittenLeft.level hr hrest) hs (by decide)

theorem Written.comparison {op : BinaryOp} (hl : Written .additive l t) (hr : Written .additive r u)
    (hs : s.operator? .comparison = some op) :
    Written .comparison (l ++ .symbol s :: r) (.binary op t u) := by
  intro rest hrest
  have hstop : Stops .additive (.symbol s :: (r ++ rest)) :=
    stops_cons (by rw [reach_of_operator? hs]; decide) _
  rw [List.append_assoc, List.cons_append]
  exact gives_comparison_step (WrittenLeft.level hl hstop) hs
    (WrittenLeft.level hr (hrest.mono (by decide)))

theorem Written.power {op : BinaryOp} (hl : Written .atom l t) (hr : Written .unary r u)
    (hs : s.operator? .power = some op) :
    Written .power (l ++ .symbol s :: r) (.binary op t u) := by
  intro rest hrest
  have hstop : Stops .atom (.symbol s :: (r ++ rest)) :=
    stops_cons (by rw [reach_of_operator? hs]; decide) _
  rw [List.append_assoc, List.cons_append]
  exact gives_power_step (hl hstop) hs (hr hrest.unary)

theorem Written.choice (hl : Written .comparison l t) (hm : Written .comparison m u)
    (hr : Written .conditional r v) :
    Written .conditional (l ++ .if :: (m ++ .else :: r)) (.conditional u t v) := by
  intro rest hrest
  rw [List.append_assoc, List.cons_append, List.append_assoc, List.cons_append]
  exact gives_test_choice (hl (stops_cons (by decide) _)) (hm (stops_cons (by decide) _)) (hr hrest)

/-- The lexemes are items with commas between them, for a list or for a call. -/
def WrittenItems (ls : List Lexeme) (ts : List Tree) : Prop :=
  ∀ close rest, close = .rightBracket ∨ close = .rightSquare →
    Gives (readItems close (ls ++ .symbol close :: rest)) ts rest

/-- What begins neither an atom nor with a sign begins no expression. -/
theorem readTest_eq_none (hatom : readAtom ls = none) (hsign : sign? ls = none) :
    readTest ls = none := by
  have hprimary : readPrimary ls = none := by rw [readPrimary, hatom]; rfl
  have hpower : readPower ls = none := by rw [readPower, hprimary]; rfl
  have hunary : readUnary ls = none := by rw [readUnary, hsign]; exact hpower
  have hlevel : ∀ n, readLevel n ls = none := by
    intro n
    induction n with
    | zero => rw [readLevel]; exact hunary
    | succ n ih => rw [readLevel, ih]; rfl
  have hcomparison : readComparison ls = none := by rw [readComparison, hlevel]; rfl
  rw [readTest, hcomparison]
  rfl

theorem expect_eq_none_of_readTest (h : Gives (readTest ls) t rest)
    (hs : s = .rightBracket ∨ s = .rightSquare) : expect (.symbol s) ls = none := by
  cases hexpect : expect (.symbol s) ls with
  | none => rfl
  | some a =>
    have hls := expect_eq_some hexpect
    obtain ⟨b, h, -⟩ := h
    have hnone : readTest ls = none := by
      rw [hls]
      rcases hs with rfl | rfl
      · exact readTest_eq_none (by rw [readAtom.eq_7] <;> simp) rfl
      · exact readTest_eq_none (by rw [readAtom.eq_7] <;> simp) rfl
    rw [hnone] at h
    cases h

theorem writtenItems_nil : WrittenItems [] [] :=
  fun _ _ _ => gives_items_nil

theorem Written.items_single (h : Written .conditional ls t) : WrittenItems ls [t] := by
  intro close rest hclose
  have hreach : (Lexeme.symbol close).reach = 0 := by
    rcases hclose with rfl | rfl <;> rfl
  have hcomma : close ≠ .comma := by
    rcases hclose with rfl | rfl <;> decide
  have htest : Gives (readTest (ls ++ .symbol close :: rest)) t (.symbol close :: rest) :=
    h (stops_cons (by rw [hreach]; decide) rest)
  exact gives_items_last (expect_eq_none_of_readTest htest hclose) htest hcomma

theorem Written.items_cons {ts : List Tree} (h : Written .conditional ls t)
    (hts : WrittenItems r ts) : WrittenItems (ls ++ .symbol .comma :: r) (t :: ts) := by
  intro close rest hclose
  rw [List.append_assoc, List.cons_append]
  have htest : Gives (readTest (ls ++ .symbol .comma :: (r ++ .symbol close :: rest))) t
      (.symbol .comma :: (r ++ .symbol close :: rest)) := h (stops_cons (by decide) _)
  exact gives_items_cons (expect_eq_none_of_readTest htest hclose) htest (hts close rest hclose)

theorem WrittenItems.list {ts : List Tree} (h : WrittenItems ls ts) :
    Written .atom (.symbol .leftSquare :: (ls ++ [.symbol .rightSquare])) (.list ts) := by
  refine written_atom fun rest => ?_
  rw [List.cons_append, List.append_assoc]
  exact gives_atom_list (h .rightSquare rest (Or.inr rfl))

theorem WrittenItems.call {ts : List Tree} (h : WrittenItems ls ts) (func : String) :
    Written .atom (.name func :: .symbol .leftBracket :: (ls ++ [.symbol .rightBracket]))
      (.call (.name func) ts) := by
  intro rest hrest
  rw [List.cons_append, List.cons_append, List.append_assoc]
  have hfunc := gives_atom_single (x := .name func) (t := .name func) fun _ => by rw [readAtom]
  exact gives_primary (hfunc _) (trails_call (h .rightBracket rest (Or.inl rfl)) hrest.trails)

/-! ### Pieces of text -/

/-- **The text is a piece of strength `σ`** with the tree `t`. -/
def Spells (σ : Strength) (text : String) (t : Tree) : Prop :=
  ∃ ls, lex text.toList = some ls ∧ Written σ ls t

/-- The text is a list of items with commas between them. -/
def SpellsItems (text : String) (ts : List Tree) : Prop :=
  ∃ ls, lex text.toList = some ls ∧ WrittenItems ls ts

theorem Spells.weaken {σ τ : Strength} {text : String} (h : Spells σ text t)
    (hle : τ.rank ≤ σ.rank) : Spells τ text t := by
  obtain ⟨ls, hlex, hls⟩ := h
  exact ⟨ls, hlex, hls.weaken hle⟩

/-- Only the characters of a text matter. -/
theorem Spells.congr {σ : Strength} {text text' : String} (h : Spells σ text t)
    (htext : text.toList = text'.toList) : Spells σ text' t :=
  String.toList_inj.mp htext ▸ h

/-- A piece is read as its tree. -/
theorem Spells.read? {σ : Strength} {text : String} (h : Spells σ text t) :
    read? text = some t := by
  obtain ⟨ls, hlex, hls⟩ := h.weaken (τ := .conditional) (by cases σ <;> decide)
  have htest := hls (stops_nil _)
  rw [List.append_nil] at htest
  obtain ⟨r, htest, hr⟩ := htest
  rw [Target.read?, hlex, Option.bind_some, treeOf?, htest]
  simp [hr]

/-! ### Lexemes of written symbols and words -/

/-- The symbols of one character that stand for themselves whatever follows. -/
def singleSymbols : List (Char × Symbol) :=
  [('(', .leftBracket), (')', .rightBracket), ('[', .leftSquare), (']', .rightSquare),
    (',', .comma), ('+', .plus), ('-', .minus)]

theorem lex_single {c : Char} {s : Symbol} (h : (c, s) ∈ singleSymbols) (rest : List Char) :
    lex (c :: rest) = (lex rest).map (.symbol s :: ·) := by
  have hall : ∀ p ∈ singleSymbols, isBlank p.1 = false ∧ lexeme? p.1 rest =
      some (.symbol p.2, rest) := by
    simp only [singleSymbols, List.forall_mem_cons]
    exact ⟨⟨rfl, rfl⟩, ⟨rfl, rfl⟩, ⟨rfl, rfl⟩, ⟨rfl, rfl⟩, ⟨rfl, rfl⟩, ⟨rfl, rfl⟩, ⟨rfl, rfl⟩,
      by simp⟩
  exact lex_lexeme (hall _ h).1 (hall _ h).2

theorem lex_space (rest : List Char) : lex (' ' :: rest) = lex rest :=
  lex_blank rfl rest

/-- A text between brackets, read by itself and then with the brackets. -/
theorem lex_enclosed {before after : Char} {a b : Symbol} {cs : List Char} {ls : List Lexeme}
    (ha : (before, a) ∈ singleSymbols) (hb : (after, b) ∈ singleSymbols) (hbreak : isBreak after)
    (h : lex cs = some ls) :
    lex (before :: (cs ++ [after])) = some (.symbol a :: (ls ++ [.symbol b])) := by
  rw [lex_single ha, lex_append (breaks_cons hbreak []) h, lex_single hb, lex_nil]
  rfl

/-- A text with a blank behind it. -/
theorem lex_append_space {cs rest : List Char} {ls : List Lexeme} (h : lex cs = some ls) :
    lex (cs ++ ' ' :: rest) = (lex rest).map (ls ++ ·) := by
  rw [lex_append (breaks_cons rfl rest) h, lex_space]

/-- Every infix operator but one is written as the symbol that its level has for it. -/
theorem exists_symbol {op : BinaryOp} (h : op ≠ .concat) :
    ∃ s : Symbol, s.operator? op.strength = some op ∧
      lex op.targetSymbol.toList = some [.symbol s] := by
  cases op with
  | concat => exact absurd rfl h
  | eq => exact ⟨.eq, rfl, by decide +kernel⟩
  | ne => exact ⟨.ne, rfl, by decide +kernel⟩
  | lt => exact ⟨.lt, rfl, by decide +kernel⟩
  | gt => exact ⟨.gt, rfl, by decide +kernel⟩
  | le => exact ⟨.le, rfl, by decide +kernel⟩
  | ge => exact ⟨.ge, rfl, by decide +kernel⟩
  | add => exact ⟨.plus, rfl, by decide +kernel⟩
  | sub => exact ⟨.minus, rfl, by decide +kernel⟩
  | mul => exact ⟨.times, rfl, by decide +kernel⟩
  | div => exact ⟨.over, rfl, by decide +kernel⟩
  | pow => exact ⟨.power, rfl, by decide +kernel⟩

theorem lex_between {a b c : String} {l m r : List Lexeme} (ha : lex a.toList = some l)
    (hb : lex b.toList = some m) (hc : lex c.toList = some r) :
    lex (a ++ " " ++ b ++ " " ++ c).toList = some (l ++ (m ++ r)) := by
  have htext : (a ++ " " ++ b ++ " " ++ c).toList =
      a.toList ++ ' ' :: (b.toList ++ ' ' :: c.toList) := by simp
  rw [htext, lex_append_space ha, lex_append_space hb, hc]
  rfl

/-! ### Putting texts together -/

theorem spells_number {text : String} (h : isNumeral text.toList) :
    Spells .atom text (.number text) :=
  ⟨_, lex_number h, written_atom (gives_atom_single fun _ => by rw [readAtom])⟩

theorem spells_string {text : String} (h : isStringLiteral text.toList) :
    Spells .atom text (.string text) :=
  ⟨_, lex_string h, written_atom (gives_atom_single fun _ => by rw [readAtom])⟩

theorem spells_name {text : String} (h : isName text) : Spells .atom text (.name text) :=
  ⟨_, lex_name h, written_atom (gives_atom_single fun _ => by rw [readAtom])⟩

theorem spells_bool (b : Bool) : Spells .atom (if b then "True" else "False") (.bool b) := by
  refine ⟨[.bool b], ?_, written_atom (gives_atom_single fun _ => by rw [readAtom])⟩
  cases b <;> decide +kernel

theorem Spells.bracketed {text : String} (h : Spells .conditional text t) :
    Spells .atom (Expr.bracketed text) t := by
  obtain ⟨ls, hlex, hls⟩ := h
  refine ⟨_, ?_, hls.bracketed⟩
  have htext : (Expr.bracketed text).toList = '(' :: (text.toList ++ [')']) := by
    simp [Expr.bracketed]
  rw [htext]
  exact lex_enclosed (by decide) (by decide) rfl hlex

/-- The symbol of a sign. -/
theorem exists_sign (op : UnaryOp) :
    ∃ c s, op.symbol = String.ofList [c] ∧ (c, s) ∈ singleSymbols ∧ s.sign? = some op := by
  cases op with
  | neg => exact ⟨'-', .minus, rfl, by decide, rfl⟩
  | plus => exact ⟨'+', .plus, rfl, by decide, rfl⟩

theorem Spells.sign {text : String} (op : UnaryOp) (h : Spells .unary text t) :
    Spells .unary (op.symbol ++ text) (.unary op t) := by
  obtain ⟨ls, hlex, hls⟩ := h
  obtain ⟨c, s, hsymbol, hsingle, hs⟩ := exists_sign op
  refine ⟨_, ?_, hls.sign hs⟩
  have htext : (op.symbol ++ text).toList = c :: text.toList := by simp [hsymbol]
  rw [htext, lex_single hsingle, hlex]
  rfl

/-- Two pieces with an operator between them, as far as their lexemes go. -/
theorem spells_between {σ τ τ' : Strength} {op : BinaryOp} {a b : String} (hop : op ≠ .concat)
    (ha : Spells τ a t) (hb : Spells τ' b u)
    (hwritten : ∀ {l r s}, Written τ l t → Written τ' r u → s.operator? op.strength = some op →
      Written σ (l ++ .symbol s :: r) (.binary op t u)) :
    Spells σ (a ++ " " ++ op.targetSymbol ++ " " ++ b) (.binary op t u) := by
  obtain ⟨l, hl, ha⟩ := ha
  obtain ⟨r, hr, hb⟩ := hb
  obtain ⟨s, hs, hlex⟩ := exists_symbol hop
  exact ⟨_, lex_between hl hlex hr, hwritten ha hb hs⟩

theorem Spells.product {op : BinaryOp} {a b : String} (hop : op.strength = .multiplicative)
    (ha : Spells .multiplicative a t) (hb : Spells .unary b u) :
    Spells .multiplicative (a ++ " " ++ op.targetSymbol ++ " " ++ b) (.binary op t u) :=
  spells_between (by rintro rfl; cases hop) ha hb fun hl hr hs => hl.product hr (hop ▸ hs)

theorem Spells.sum {op : BinaryOp} {a b : String} (hop : op.strength = .additive)
    (ha : Spells .additive a t) (hb : Spells .multiplicative b u) :
    Spells .additive (a ++ " " ++ op.targetSymbol ++ " " ++ b) (.binary op t u) :=
  spells_between (by rintro rfl; cases hop) ha hb fun hl hr hs => hl.sum hr (hop ▸ hs)

theorem Spells.comparison {op : BinaryOp} {a b : String} (hop : op.strength = .comparison)
    (ha : Spells .additive a t) (hb : Spells .additive b u) :
    Spells .comparison (a ++ " " ++ op.targetSymbol ++ " " ++ b) (.binary op t u) :=
  spells_between (by rintro rfl; cases hop) ha hb fun hl hr hs => hl.comparison hr (hop ▸ hs)

theorem Spells.power {op : BinaryOp} {a b : String} (hop : op.strength = .power)
    (ha : Spells .atom a t) (hb : Spells .unary b u) :
    Spells .power (a ++ " " ++ op.targetSymbol ++ " " ++ b) (.binary op t u) :=
  spells_between (by rintro rfl; cases hop) ha hb fun hl hr hs => hl.power hr (hop ▸ hs)

/-- A choice between pieces in brackets. -/
theorem Spells.choice {cond onTrue onFalse : String} (hc : Spells .conditional cond u)
    (ht : Spells .conditional onTrue t) (hf : Spells .conditional onFalse v) :
    Spells .conditional (Function.conditionalText cond onTrue onFalse) (.conditional u t v) := by
  obtain ⟨l, hl, ht⟩ := ht.bracketed
  obtain ⟨m, hm, hc⟩ := hc.bracketed
  obtain ⟨r, hr, hf⟩ := hf.bracketed
  have htext : (Function.conditionalText cond onTrue onFalse).toList =
      (Expr.bracketed onTrue ++ " " ++ "if" ++ " " ++
        (Expr.bracketed cond ++ " " ++ "else" ++ " " ++ Expr.bracketed onFalse)).toList := by
    simp [Function.conditionalText, Expr.bracketed]
  have hif : lex "if".toList = some [.if] := by decide +kernel
  have helse : lex "else".toList = some [.else] := by decide +kernel
  refine ⟨_, htext ▸ lex_between hl hif (lex_between hm helse hr), ?_⟩
  exact (ht.weaken (τ := .comparison) (by decide)).choice
    (hc.weaken (τ := .comparison) (by decide)) (hf.weaken (τ := .conditional) (by decide))

/-- Items that are written one by one are written as a list with commas between them. -/
theorem spellsItems_joined {α : Type} {f : α → String} {g : α → Tree} {as : List α}
    (h : ∀ a ∈ as, Spells .conditional (f a) (g a)) :
    SpellsItems (Function.joined (as.map f)) (as.map g) := by
  induction as with
  | nil => exact ⟨[], lex_nil, writtenItems_nil⟩
  | cons a as ih =>
    obtain ⟨l, hl, ha⟩ := h a List.mem_cons_self
    cases as with
    | nil => exact ⟨l, hl, ha.items_single⟩
    | cons b as =>
      obtain ⟨r, hr, hbs⟩ := ih fun c hc => h c (List.mem_cons_of_mem a hc)
      refine ⟨_, ?_, ha.items_cons hbs⟩
      have htext : (Function.joined ((a :: b :: as).map f)).toList =
          (f a).toList ++ ',' :: ' ' :: (Function.joined ((b :: as).map f)).toList := by
        simp [Function.joined, String.intercalate_cons_cons]
      rw [htext, lex_append (breaks_cons rfl _) hl, lex_single (s := .comma) (by decide),
        lex_space, hr]
      rfl

theorem SpellsItems.list {text : String} {ts : List Tree} (h : SpellsItems text ts) :
    Spells .atom ("[" ++ text ++ "]") (.list ts) := by
  obtain ⟨ls, hlex, hls⟩ := h
  refine ⟨_, ?_, hls.list⟩
  have htext : ("[" ++ text ++ "]").toList = '[' :: (text.toList ++ [']']) := by simp
  rw [htext]
  exact lex_enclosed (by decide) (by decide) rfl hlex

theorem SpellsItems.call {func text : String} {ts : List Tree} (h : SpellsItems text ts)
    (hfunc : isName func) : Spells .atom (func ++ Expr.bracketed text) (.call (.name func) ts) := by
  obtain ⟨ls, hlex, hls⟩ := h
  refine ⟨_, ?_, hls.call func⟩
  have htext : (func ++ Expr.bracketed text).toList =
      func.toList ++ '(' :: (text.toList ++ [')']) := by
    simp [Expr.bracketed]
  rw [htext, lex_append (breaks_cons rfl _) (lex_name hfunc),
    lex_enclosed (a := .leftBracket) (b := .rightBracket) (by decide) (by decide) rfl hlex]
  rfl

end ReportCompiler.Target
