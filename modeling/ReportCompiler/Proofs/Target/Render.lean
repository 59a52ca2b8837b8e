import ReportCompiler.Proofs.Target.Written

/-!
# Written expressions are read as they are meant

An expression is written with as few brackets as the program's language allows, by a rule that
compares the strength of an operand with that of its operator.  The theorem here says that the rule
is right: whatever is nested in whatever, the program's language reads the written form as the tree
that the expression stands for.  No operator is grouped differently, and no two comparisons meet.

The tree that an expression stands for is said without a look at brackets or strengths.  Brackets of
the formula vanish, a percent sign is a division, joined texts are a call, and each function of a
spreadsheet is the call of its helper.

## Main definitions

* `Expr.target` - the tree that an expression stands for.
* `Expr.wellFormed` - the texts in the expression are what they are used as.

## Main results

* `spells_render` - the written form of an expression is a piece of program text whose strength is
  `Expr.strength`.
* `read?_render` - **the written form is read as the tree that the expression stands for**.
-/

namespace ReportCompiler

open Target (Tree)

/-- The tree of a text that is a primary. -/
def Target.primary? (text : String) : Option Tree :=
  (lex text.toList).bind fun ls =>
    (readPrimary ls).bind fun (t, r) => if r.1.isEmpty then some t else none

namespace Formula

/-- The call that stands for a function of a spreadsheet. -/
def Function.target : Function → List Tree → Tree
  | .if, args =>
    .conditional (args.getD 0 (.bool false)) (args.getD 1 (.bool false)) (args.getD 2 (.bool false))
  | .or, args => .call (.name "any") [.list args]
  | .count, args => .call (.name "count_non_empty") [.list args]
  | .sum, args => .call (.name "sum_skip_empty") [.list args]
  | .average, args =>
    .binary .div (.call (.name "sum_skip_empty") [.list args])
      (.call (.name "count_non_empty") [.list args])
  | .guardLimitLower, args => .call (.name "vba_guard_limit_lower") args
  | .guardLimitUpper, args => .call (.name "vba_guard_limit_upper") args

namespace Expr

mutual

/-- The tree that the expression stands for. -/
def target : Expr → Tree
  | number t =>
    if beginsWithMinus t then .unary .neg (.number (String.ofList t.toList.tail)) else .number t
  | text t => .string t
  | bool b => .bool b
  | var name => .name name
  | raw t => (Target.primary? t).getD default
  | list items => .list (targetAll items)
  | group inner => inner.target
  | unary op operand => .unary op operand.target
  | percent operand => .binary .div operand.target (.number "100")
  | binary op left right =>
    if op = .concat then .call (.name "xls_concat") [left.target, right.target]
    else .binary op left.target right.target
  | conditional cond onTrue onFalse => .conditional cond.target onTrue.target onFalse.target
  | call func args => func.target (targetAll args)

/-- The trees that several expressions stand for. -/
def targetAll : List Expr → List Tree
  | [] => []
  | e :: rest => e.target :: targetAll rest

end

mutual

/-- The texts of the expression are what they are used as: numbers, with a minus sign in front
perhaps, string literals, names and primaries.  No call is a choice, which has a form of its own. -/
def wellFormed : Expr → Bool
  | number t => Target.isNumeral (Target.dropOne (· = '-') t.toList)
  | text t => Target.isStringLiteral t.toList
  | bool _ => true
  | var name => Target.isName name
  | raw t => (Target.primary? t).isSome
  | list items => wellFormedAll items
  | group inner => inner.wellFormed
  | unary _ operand => operand.wellFormed
  | percent operand => operand.wellFormed
  | binary _ left right => left.wellFormed && right.wellFormed
  | conditional cond onTrue onFalse =>
    cond.wellFormed && onTrue.wellFormed && onFalse.wellFormed
  | call func args => func != .if && wellFormedAll args

/-- The texts of all the expressions are what they are used as. -/
def wellFormedAll : List Expr → Bool
  | [] => true
  | e :: rest => e.wellFormed && wellFormedAll rest

end

theorem targetAll_eq_map (es : List Expr) : targetAll es = es.map target := by
  induction es with
  | nil => rfl
  | cons e rest ih => rw [targetAll, ih, List.map_cons]

theorem target_binary {op : BinaryOp} (h : op ≠ .concat) (left right : Expr) :
    (binary op left right).target = .binary op left.target right.target := by
  rw [target, if_neg h]

end Expr

end Formula

namespace Target

open Formula (BinaryOp UnaryOp Strength Expr Function)

variable {t u : Tree} {σ τ outer : Strength} {a b : String}

/-! ### Operands -/

theorem Spells.any (h : Spells σ a t) : Spells .conditional a t :=
  h.weaken (by cases σ <;> decide)

/-- The operand of an operator may be as strong as the operator. -/
theorem Spells.operand (h : Spells σ a t) : Spells τ (Expr.operandText σ a τ false) t := by
  unfold Expr.operandText
  split
  · exact h.any.bracketed.weaken (by cases τ <;> decide)
  · exact h.weaken (by simp_all)

theorem rank_le_of_looser_lt (h : (looser τ).rank < σ.rank) : τ.rank ≤ σ.rank := by
  revert h
  cases τ <;> cases σ <;> decide

/-- A strict operand is stronger than the operator. -/
theorem Spells.strictOperand (h : Spells σ a t) :
    Spells τ (Expr.operandText σ a (looser τ) true) t := by
  unfold Expr.operandText
  split
  · exact h.any.bracketed.weaken (by cases τ <;> decide)
  case isFalse hlt =>
    have hlt' : (looser τ).rank < σ.rank := by
      simp at hlt
      omega
    exact h.weaken (rank_le_of_looser_lt hlt')

theorem Spells.binaryText {op : BinaryOp} (hop : op ≠ .concat) (ha : Spells σ a t)
    (hb : Spells τ b u) : Spells op.strength (Expr.binaryText op σ a τ b) (.binary op t u) := by
  rw [Expr.binaryText, if_neg hop]
  cases op with
  | concat => exact absurd rfl hop
  | eq | ne | lt | gt | le | ge =>
    -- comparisons would chain, so both operands are stronger
    exact Spells.comparison rfl (ha.strictOperand (τ := .additive))
      (hb.strictOperand (τ := .additive))
  | add | sub => exact Spells.sum rfl ha.operand (hb.strictOperand (τ := .multiplicative))
  | mul | div => exact Spells.product rfl ha.operand (hb.strictOperand (τ := .unary))
  | pow =>
    -- powers would group to the right, so both operands are stronger
    exact Spells.power rfl (ha.strictOperand (τ := .atom))
      ((hb.strictOperand (τ := .atom)).weaken (by decide))

/-! ### Single expressions -/

theorem spells_primary {text : String} (h : primary? text = some t) : Spells .atom text t := by
  obtain ⟨ls, hlex, h⟩ := Option.bind_eq_some_iff.mp h
  obtain ⟨⟨t', r⟩, hread, h⟩ := Option.bind_eq_some_iff.mp h
  rw [Option.ite_none_right_eq_some, List.isEmpty_iff] at h
  obtain ⟨hr, rfl⟩ := And.imp_right Option.some.inj h
  exact ⟨ls, hlex, fun _ hrest => readPrimary_append ⟨r, hread, hr⟩ hrest⟩

theorem spells_signedNumber {text : String} (h : (Expr.number text).wellFormed) :
    Spells (Expr.number text).strength text (Expr.number text).target := by
  simp only [Expr.wellFormed] at h
  by_cases hminus : Formula.beginsWithMinus text
  · -- the text is a sign and a number, and binds as a sign does
    obtain ⟨digits, hdigits⟩ : ∃ digits, text.toList = '-' :: digits := by
      have hhead : text.toList.head? = some '-' := by simpa [Formula.beginsWithMinus] using hminus
      exact ⟨text.toList.tail, (List.head?_eq_some_iff.mp hhead).choose_spec ▸ rfl⟩
    have htext : text = UnaryOp.neg.symbol ++ String.ofList digits := by
      rw [← String.toList_inj, hdigits]
      simp [UnaryOp.symbol]
    have hnumeral : isNumeral (String.ofList digits).toList := by
      simpa [hdigits, dropOne] using h
    have hspells := (spells_number hnumeral).weaken (τ := .unary) (by decide)
    have hsigned := hspells.sign .neg
    rw [← htext] at hsigned
    simpa [Expr.strength, Expr.target, hminus, hdigits] using hsigned
  · have hdrop : dropOne (· = '-') text.toList = text.toList := by
      cases hs : text.toList with
      | nil => rfl
      | cons c cs =>
        have hc : c ≠ '-' := by simpa [Formula.beginsWithMinus, hs] using hminus
        simp [dropOne, hc]
    rw [hdrop] at h
    simpa [Expr.strength, Expr.target, hminus] using spells_number h

theorem Spells.percent (h : Spells σ a t) :
    Spells .atom ("(" ++ Expr.operandText σ a .multiplicative false ++ " / 100)")
      (.binary .div t (.number "100")) := by
  have hdiv : Spells .multiplicative
      (Expr.operandText σ a .multiplicative false ++ " " ++ BinaryOp.div.targetSymbol ++ " " ++
        "100")
      (.binary .div t (.number "100")) :=
    Spells.product rfl h.operand ((spells_number (by decide)).weaken (by decide))
  exact hdiv.any.bracketed.congr (by simp [Expr.bracketed, BinaryOp.targetSymbol])

/-! ### Calls -/

theorem Spells.item (h : Spells .conditional a t) : SpellsItems a [t] := by
  obtain ⟨ls, hlex, hls⟩ := h
  exact ⟨ls, hlex, hls.items_single⟩

/-- The call of a helper that takes one list. -/
theorem SpellsItems.listCall {func text : String} {ts : List Tree} (h : SpellsItems text ts)
    (hfunc : isName func) :
    Spells .atom (func ++ "([" ++ text ++ "])") (.call (.name func) [.list ts]) :=
  (h.list.any.item.call hfunc).congr (by simp [Expr.bracketed])

theorem SpellsItems.callText {func : Function} {texts : List String} {ts : List Tree}
    (hfunc : func ≠ .if) (h : SpellsItems (Function.joined texts) ts) :
    Spells .atom (func.callText texts) (func.target ts) := by
  have hsum := h.listCall (by decide : isName "sum_skip_empty")
  have hcount := h.listCall (by decide : isName "count_non_empty")
  cases func with
  | «if» => exact absurd rfl hfunc
  | or =>
    have hany := h.listCall (by decide : isName "any")
    change Spells .atom ("any([" ++ Function.joined texts ++ "])") _
    exact hany.congr (by simp)
  | count =>
    change Spells .atom ("count_non_empty([" ++ Function.joined texts ++ "])") _
    exact hcount.congr (by simp)
  | sum =>
    change Spells .atom ("(sum_skip_empty([" ++ Function.joined texts ++ "]))") _
    exact hsum.any.bracketed.congr (by simp [Expr.bracketed])
  | average =>
    -- a quotient of two calls with the same items, in brackets of its own
    have hquotient := Spells.product (rfl : BinaryOp.div.strength = _) (hsum.weaken (by decide))
      (hcount.weaken (by decide))
    change Spells .atom ("(sum_skip_empty([" ++ Function.joined texts ++ "]) / count_non_empty([" ++
      Function.joined texts ++ "]))") _
    exact hquotient.any.bracketed.congr (by simp [Expr.bracketed, BinaryOp.targetSymbol])
  | guardLimitLower =>
    have hcall := h.call (by decide : isName "vba_guard_limit_lower")
    change Spells .atom ("vba_guard_limit_lower(" ++ Function.joined texts ++ ")") _
    exact hcall.congr (by simp [Expr.bracketed])
  | guardLimitUpper =>
    have hcall := h.call (by decide : isName "vba_guard_limit_upper")
    change Spells .atom ("vba_guard_limit_upper(" ++ Function.joined texts ++ ")") _
    exact hcall.congr (by simp [Expr.bracketed])

theorem spellsItems_pair (ha : Spells .conditional a t) (hb : Spells .conditional b u) :
    SpellsItems (a ++ ", " ++ b) [t, u] := by
  have hboth : ∀ p ∈ [(a, t), (b, u)], Spells .conditional p.1 p.2 := by
    simp [ha, hb]
  have hitems : SpellsItems (Function.joined [a, b]) [t, u] := spellsItems_joined hboth
  rwa [Function.joined, String.intercalate_cons_cons, String.intercalate_singleton] at hitems

/-- Joined texts are a call with two arguments. -/
theorem Spells.concat (ha : Spells .conditional a t) (hb : Spells .conditional b u) :
    Spells .atom ("xls_concat(" ++ a ++ ", " ++ b ++ ")") (.call (.name "xls_concat") [t, u]) := by
  have hcall := (spellsItems_pair ha hb).call (by decide : isName "xls_concat")
  exact hcall.congr (by simp [Expr.bracketed])

theorem spellsItems_renderAll {es : List Expr}
    (h : ∀ e ∈ es, Spells .conditional e.render e.target) :
    SpellsItems (Function.joined (Expr.renderAll es)) (Expr.targetAll es) := by
  rw [Expr.renderAll_eq_map, Expr.targetAll_eq_map]
  exact spellsItems_joined h

/-! ### All expressions -/

mutual

/-- The written form of an expression binds as `Expr.strength` says. -/
theorem spells_render (e : Expr) (h : e.wellFormed) : Spells e.strength e.render e.target := by
  match e with
  | .number text => exact spells_signedNumber h
  | .text text => exact spells_string h
  | .bool b => exact spells_bool b
  | .var name => exact spells_name h
  | .raw text =>
    obtain ⟨t, ht⟩ := Option.isSome_iff_exists.mp h
    have hspells := spells_primary ht
    rwa [show t = (Expr.raw text).target by simp [Expr.target, ht]] at hspells
  | .list items => exact (spellsItems_renderAll (spells_each items h)).list
  | .group inner => exact (spells_render inner h).any.bracketed
  | .unary op operand => exact (spells_render operand h).operand.sign op
  | .percent operand => exact (spells_render operand h).percent
  | .binary op left right =>
    simp only [Expr.wellFormed, Bool.and_eq_true] at h
    have hleft := spells_render left h.1
    have hright := spells_render right h.2
    by_cases hop : op = .concat
    · subst hop
      exact hleft.any.concat hright.any
    · have hbinary := Spells.binaryText hop hleft hright
      rwa [← Expr.target_binary hop] at hbinary
  | .conditional cond onTrue onFalse =>
    simp only [Expr.wellFormed, Bool.and_eq_true] at h
    exact (spells_render cond h.1.1).any.choice (spells_render onTrue h.1.2).any
      (spells_render onFalse h.2).any
  | .call func args =>
    simp only [Expr.wellFormed, Bool.and_eq_true, bne_iff_ne] at h
    exact (spellsItems_renderAll (spells_each args h.2)).callText h.1

/-- The written forms of several expressions. -/
theorem spells_each (es : List Expr) (h : Expr.wellFormedAll es) :
    ∀ e ∈ es, Spells .conditional e.render e.target := by
  match es with
  | [] => simp
  | e :: rest =>
    simp only [Expr.wellFormedAll, Bool.and_eq_true] at h
    have hhead := (spells_render e h.1).any
    have htail := spells_each rest h.2
    exact List.forall_mem_cons.mpr ⟨hhead, htail⟩

end

/-- **The written form of an expression is read as the tree that the expression stands for.** -/
theorem read?_render (e : Expr) (h : e.wellFormed) : read? e.render = some e.target :=
  (spells_render e h).read?

/-- A comparison of a comparison, powers of powers and of signs, differences of differences, a
percentage, a choice, joined texts, a mean and a reading of the accessor. -/
def nestedExpression : Expr :=
  .binary .eq (.binary .lt (.number "1") (.var "x"))
    (.binary .sub
      (.binary .pow (.unary .neg (.var "a")) (.binary .pow (.number "-2") (.var "b")))
      (.binary .sub (.percent (.group (.var "c")))
        (.binary .mul
          (.conditional (.bool true) (.raw "report.get_event('n', 1)") (.text "\"t\""))
          (.call .average [.binary .concat (.var "d") (.var "e"), .number "1.5E+3"]))))

theorem read?_render_nestedExpression :
    nestedExpression.wellFormed ∧
      nestedExpression.render =
        "(1 < x) == (-a) ** ((-2) ** b) - (((c) / 100) - " ++
          "((report.get_event('n', 1)) if (True) else (\"t\")) * " ++
          "(sum_skip_empty([xls_concat(d, e), 1.5E+3]) / " ++
          "count_non_empty([xls_concat(d, e), 1.5E+3])))" ∧
      read? nestedExpression.render = some nestedExpression.target :=
  ⟨by decide +kernel, by decide +kernel, read?_render nestedExpression (by decide +kernel)⟩

end Target

end ReportCompiler
