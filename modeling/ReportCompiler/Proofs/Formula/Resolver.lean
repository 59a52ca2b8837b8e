import Mathlib
import ReportCompiler.Proofs.Formula.References

/-!
# Formulas and the resolver of their references

A resolver has effects: to answer for a reference it may compile other cells.  So it matters which
references it is given and in which order.  It answers a range with a list, and the reader has to
see to it that no list becomes an operand.

## Main definitions

* `Resolver ε σ` - answers for references, with a state `σ` and errors `ε`.
* `Reading.resolved resolve raise r s` - the reading answered from the state `s` on.
* `Resolver.logged` - the resolver that also writes down what it is asked.
* `Expr.Within e whole` - `e` is `whole`, or a part of a part and so on.
* `Expr.ListFree` - there is no list in the expression.
* `Expr.Flat` - the answers for cells and for ranges.

## Main results

* `resolver_asked_in_order` - **the references are asked for from left to right, each once.**
* `lists_only_in_choices` - **a list can only be the condition or a value of a choice.**
* `choice_keeps_list` - and there it can be.
-/

namespace ReportCompiler.Formula

/-- A function that answers for references.  It may fail, and what it has done is kept when it does.
-/
abbrev Resolver (ε σ : Type) := String → ExceptT ε (StateM σ) Expr

/-- The resolver that also writes down what it is asked. -/
def Resolver.logged {ε σ : Type} (resolve : Resolver ε σ) : Resolver ε (σ × List String) :=
  fun reference (s, asked) =>
    let (answer, s') := resolve reference s
    (answer, s', asked ++ [reference])

namespace Reading

variable {ε σ α : Type}

/-- The reading with its questions answered by the resolver, from the state `s` on. -/
def resolved (resolve : Resolver ε σ) (raise : Fault → ε) (r : Reading α) (s : σ) :
    Except ε α × σ :=
  r.run resolve (fun why => throw (raise why)) s

variable {resolve : Resolver ε σ} {raise : Fault → ε}

theorem resolved_ask (reference : String) (next : Expr → Reading α) (s : σ) :
    (ask reference next).resolved resolve raise s = match resolve reference s with
      | (.ok e, s') => (next e).resolved resolve raise s'
      | (.error why, s') => (.error why, s') := by
  simp only [resolved, run, Bind.bind, ExceptT.bind, ExceptT.mk, StateT.bind, ExceptT.bindCont]
  rcases resolve reference s with ⟨_ | _, _⟩ <;> rfl

/-! ### The order of the questions -/

/-- A resolver that writes down what it is asked leads to the same result.  What it writes down are
the first references of those that the reading asks for in turn, and a result satisfies `Q` with the
references that are left. -/
theorem Consumes.logged {P : Expr → Prop} {Q : List String → α → Prop} {refs : List String}
    {r : Reading α} (h : r.Consumes P Q refs)
    (hP : ∀ reference s e, (resolve reference s).1 = .ok e → P e) (s : σ) (asked : List String) :
    ∃ result s' now rest,
      r.resolved resolve raise s = (result, s') ∧
      r.resolved resolve.logged raise (s, asked) = (result, s', asked ++ now) ∧
      refs = now ++ rest ∧ ∀ a, result = .ok a → Q rest a := by
  induction r generalizing refs s asked with
  | done a =>
    refine ⟨.ok a, s, [], refs, rfl, by rw [List.append_nil]; rfl, rfl, fun b hb => ?_⟩
    rw [← Except.ok.inj hb]
    exact h
  | fault why =>
    exact ⟨.error (raise why), s, [], refs, rfl, by rw [List.append_nil]; rfl, rfl, nofun⟩
  | ask reference next ih =>
    obtain ⟨later, rfl, hnext⟩ := h
    rw [resolved_ask, resolved_ask, Resolver.logged]
    rcases hanswer : resolve reference s with ⟨why | e, s'⟩
    · exact ⟨.error why, s', [reference], later, rfl, rfl, rfl, nofun⟩
    · have he : P e := hP reference s e (by rw [hanswer])
      obtain ⟨result, s'', now, rest, hrun, hlogged, hrefs, hQ⟩ :=
        ih e (hnext e he) s' (asked ++ [reference])
      refine ⟨result, s'', reference :: now, rest, hrun, ?_, by rw [hrefs]; rfl, hQ⟩
      show (next e).resolved resolve.logged raise (s', asked ++ [reference]) = _
      rw [hlogged, List.append_assoc]
      rfl

end Reading

section

variable {ε σ : Type}

/-- **The references are asked for from left to right, each once.**  Writing down what the resolver
is asked changes nothing.  What is written down is the beginning of the references of the formula,
in the order of the tokens, and all of them when the formula is read to its end. -/
theorem resolver_asked_in_order (resolve : Resolver ε σ) (raise : Fault → ε) (ts : List Token)
    (s : σ) :
    ∃ result s' asked,
      (parseFormula ts).resolved resolve raise s = (result, s') ∧
      (parseFormula ts).resolved resolve.logged raise (s, []) = (result, s', asked) ∧
      asked <+: references ts ∧
      ∀ e, result = .ok e → asked = references ts := by
  have hconsumes := parseFormula_consumes Expr.Compositional.trivial ts
  obtain ⟨result, s', asked, rest, hrun, hlogged, hrefs, hrest⟩ :=
    hconsumes.logged (fun _ _ _ _ => trivial) s []
  refine ⟨result, s', asked, hrun, hlogged, ⟨rest, hrefs.symm⟩, fun e he => ?_⟩
  rw [hrefs, (hrest e he).2, List.append_nil]

/-- A choice with an empty value, and a sum with an empty argument and a reference that has been
used before. -/
def gappedChoice : List Token :=
  [⟨.func, .opener, "IF("⟩, ⟨.operand, .range, "A1"⟩, ⟨.sep, .arg, ","⟩, ⟨.sep, .arg, ","⟩,
    ⟨.func, .opener, "SUM("⟩, ⟨.operand, .range, "B1"⟩, ⟨.sep, .arg, ","⟩, ⟨.sep, .arg, ","⟩,
    ⟨.operand, .range, "A1"⟩, ⟨.func, .closer, ")"⟩, ⟨.func, .closer, ")"⟩]

/-- Answers every question with a variable of its own. -/
def freshVariables : Resolver Fault Nat := fun _ n => (.ok (.var (toString n)), n + 1)

/-- The empty arguments ask for nothing, and the reference that comes twice is asked for twice. -/
theorem resolver_asked_in_order_gappedChoice :
    (parseFormula gappedChoice).resolved freshVariables.logged id (0, []) =
      (.ok (.conditional (.var "0") (.number "0") (.call .sum [.var "1", .var "2"])), 3,
        ["A1", "B1", "A1"]) := by
  obtain ⟨result, n, asked, hrun, hlogged, -, hall⟩ :=
    resolver_asked_in_order freshVariables id gappedChoice 0
  have hread : (parseFormula gappedChoice).resolved freshVariables id 0 =
      (.ok (.conditional (.var "0") (.number "0") (.call .sum [.var "1", .var "2"])), 3) := by
    cbv
  obtain ⟨rfl, rfl⟩ := Prod.mk.inj (hrun.symm.trans hread)
  rw [hlogged, hall _ rfl]
  rfl

/-! ### Where lists can stand -/

namespace Expr

/-- The expressions that an expression is made of. -/
def parts : Expr → List Expr
  | list items => items
  | group inner => [inner]
  | unary _ operand => [operand]
  | percent operand => [operand]
  | binary _ left right => [left, right]
  | conditional cond onTrue onFalse => [cond, onTrue, onFalse]
  | call _ args => args
  | _ => []

/-- The expression occurs in the other one: it is the other one, or it occurs in a part of it. -/
inductive Within : Expr → Expr → Prop
  | here (e : Expr) : Within e e
  | part {e p whole : Expr} (hp : p ∈ whole.parts) (h : Within e p) : Within e whole

theorem Within.of_part {e p node : Expr} (h : node.Within e) (hp : p ∈ node.parts) :
    p.Within e := by
  induction h with
  | here => exact .part hp (.here p)
  | part hq _ ih => exact .part hq ih

/-- What occurs in an expression is the whole, or a part of something that occurs. -/
theorem Within.eq_or_part {e node : Expr} (h : node.Within e) :
    node = e ∨ ∃ parent : Expr, parent.Within e ∧ node ∈ parent.parts := by
  induction h with
  | here => exact .inl rfl
  | part hp _ ih =>
    rcases ih with rfl | ⟨parent, hparent, hnode⟩
    · exact .inr ⟨_, .here _, hp⟩
    · exact .inr ⟨parent, .part hp hparent, hnode⟩

/-- No list occurs in the expression. -/
def ListFree (e : Expr) : Prop :=
  ∀ node : Expr, node.Within e → node.isList = false

/-- The expression is free of lists, or it is a list of expressions that are. -/
def Flat (e : Expr) : Prop :=
  e.ListFree ∨ ∃ items, e = list items ∧ ∀ item ∈ items, item.ListFree

/-- The expression is a choice. -/
def isChoice : Expr → Bool
  | conditional _ _ _ => true
  | _ => false

/-- A list that is a part of anything in the expression is a part of a choice. -/
def ListsInChoices (e : Expr) : Prop :=
  ∀ node : Expr, node.Within e → ∀ p ∈ node.parts, p.isList → node.isChoice

theorem listsInChoices_iff {e : Expr} :
    e.ListsInChoices ↔ ∀ p ∈ e.parts, (p.isList → e.isChoice) ∧ p.ListsInChoices := by
  constructor
  · intro h p hp
    exact ⟨h e (.here e) p hp, fun node hnode => h node (.part hp hnode)⟩
  · intro h node hnode
    cases hnode with
    | here => exact fun p hp => (h p hp).1
    | part hp hwithin => exact (h _ hp).2 node hwithin

theorem ListFree.not_list {e : Expr} (h : e.ListFree) : e.isList = false :=
  h e (.here e)

theorem ListFree.listsInChoices {e : Expr} (h : e.ListFree) : e.ListsInChoices := by
  intro node hnode p hp hlist
  rw [h p (hnode.of_part hp)] at hlist
  exact absurd hlist Bool.false_ne_true

theorem Flat.listsInChoices {e : Expr} (h : e.Flat) : e.ListsInChoices := by
  rcases h with hfree | ⟨items, rfl, hitems⟩
  · exact hfree.listsInChoices
  · refine listsInChoices_iff.mpr fun p hp => ⟨fun hlist => ?_, (hitems p hp).listsInChoices⟩
    rw [(hitems p hp).not_list] at hlist
    exact absurd hlist Bool.false_ne_true

/-- What the reader builds has lists in choices only, when what it builds from does. -/
theorem assembles_listsInChoices :
    Assembles (fun e => e.ListsInChoices ∧ e.isList = false) ListsInChoices where
  number _ := listsInChoices_iff.mpr (by simp [parts])
  text _ := listsInChoices_iff.mpr (by simp [parts])
  bool _ := listsInChoices_iff.mpr (by simp [parts])
  scalar he hscalar := ⟨he, hscalar⟩
  items h e he := by
    obtain ⟨hlist, hin⟩ := listsInChoices_iff.mp h e he
    exact ⟨hin, by simpa [isChoice] using hlist⟩
  group h := listsInChoices_iff.mpr (by simp [parts, h])
  unary h := listsInChoices_iff.mpr (by simp [parts, h])
  percent h := listsInChoices_iff.mpr (by simp [parts, h])
  binary hl hr := listsInChoices_iff.mpr (by simp [parts, hl, hr])
  conditional hc ht hf := listsInChoices_iff.mpr (by simp [parts, isChoice, hc, ht, hf])
  call h := listsInChoices_iff.mpr fun p hp => ⟨by simp [(h p hp).2], (h p hp).1⟩

/-- Where lists are in choices only, there is none if no choice has one. -/
theorem ListsInChoices.listFree_iff {e : Expr} (h : e.ListsInChoices) (he : e.isList = false) :
    e.ListFree ↔
      ∀ node : Expr, node.Within e → node.isChoice → ∀ p ∈ node.parts, p.isList = false := by
  constructor
  · intro hfree node hnode _ p hp
    exact hfree p (hnode.of_part hp)
  · intro hchoices node hnode
    rcases hnode.eq_or_part with rfl | ⟨parent, hparent, hpart⟩
    · exact he
    · by_cases hlist : node.isList
      · exact hchoices parent hparent (h parent hparent node hpart hlist) node hpart
      · exact Bool.eq_false_iff.mpr hlist

end Expr

/-- **A list can only be the condition or a value of a choice.**  When the answers are free of lists
or flat lists, the expression of a formula is no list, and nothing in it but a choice has a part
that is a list: no operand, nothing in brackets, no argument of a call and no member of another
list.  So it is free of lists exactly if none of its choices has one. -/
theorem lists_only_in_choices (resolve : Resolver ε σ) (raise : Fault → ε) (ts : List Token)
    (s : σ) (e : Expr) (hflat : ∀ reference s e, (resolve reference s).1 = .ok e → e.Flat)
    (h : ((parseFormula ts).resolved resolve raise s).1 = .ok e) :
    e.isList = false ∧
    (∀ node : Expr, node.Within e → ∀ p ∈ node.parts, p.isList → node.isChoice) ∧
    (e.ListFree ↔
      ∀ node : Expr, node.Within e → node.isChoice → ∀ p ∈ node.parts, p.isList = false) := by
  have hconsumes := parseFormula_assembles Expr.assembles_listsInChoices ts
  obtain ⟨result, s', -, rest, hrun, -, -, hresult⟩ :=
    hconsumes.logged (fun reference s e he => (hflat reference s e he).listsInChoices) s []
  rw [hrun] at h
  obtain ⟨hin, hscalar⟩ := (hresult e h).1
  exact ⟨hscalar, hin, hin.listFree_iff hscalar⟩

/-- Answers for a range with a list of two variables, and for anything else with one variable. -/
def twoMembers : Resolver Fault Unit := fun reference s =>
  (.ok (if ':' ∈ reference.toList then .list [.var "first", .var "last"] else .var reference), s)

theorem flat_twoMembers (reference : String) (s : Unit) (e : Expr)
    (h : (twoMembers reference s).1 = .ok e) : e.Flat := by
  have hvar (name : String) : (Expr.var name).ListFree := by
    intro node hnode
    cases hnode with
    | here => rfl
    | part hp _ => simp [Expr.parts] at hp
  unfold twoMembers at h
  rw [← Except.ok.inj h]
  split
  · refine .inr ⟨_, rfl, fun item hitem => ?_⟩
    simp only [List.mem_cons, List.not_mem_nil, or_false] at hitem
    rcases hitem with rfl | rfl <;> exact hvar _
  · exact .inl (hvar reference)

/-- A sum of a range and of a choice whose condition is a range in brackets. -/
def sumWithChoice : List Token :=
  [⟨.func, .opener, "SUM("⟩, ⟨.operand, .range, "A1:B1"⟩, ⟨.sep, .arg, ","⟩,
    ⟨.func, .opener, "IF("⟩, ⟨.paren, .opener, "("⟩, ⟨.operand, .range, "C1:D1"⟩,
    ⟨.paren, .closer, ")"⟩, ⟨.sep, .arg, ","⟩, ⟨.prefixOp, .plain, "-"⟩,
    ⟨.operand, .range, "E1"⟩, ⟨.func, .closer, ")"⟩, ⟨.func, .closer, ")"⟩]

/-- The range of the sum is gone, and that of the choice is still a list. -/
theorem lists_only_in_choices_sumWithChoice :
    ∃ e : Expr, ((parseFormula sumWithChoice).resolved twoMembers id ()).1 = .ok e ∧
      e = .call .sum [.var "first", .var "last",
        .conditional (.list [.var "first", .var "last"]) (.unary .neg (.var "E1")) (.bool false)] ∧
      (∀ node : Expr, node.Within e → ∀ p ∈ node.parts, p.isList → node.isChoice) ∧
      ¬e.ListFree := by
  have hread : ((parseFormula sumWithChoice).resolved twoMembers id ()).1 =
      .ok (.call .sum [.var "first", .var "last", .conditional
        (.list [.var "first", .var "last"]) (.unary .neg (.var "E1")) (.bool false)]) := by
    cbv
  obtain ⟨-, hchoices, hfree⟩ :=
    lists_only_in_choices twoMembers id sumWithChoice () _ flat_twoMembers hread
  refine ⟨_, hread, rfl, hchoices, fun h => ?_⟩
  have hnone := hfree.mp h (.conditional (.list [.var "first", .var "last"])
    (.unary .neg (.var "E1")) (.bool false)) (.part (by simp [Expr.parts]) (.here _)) rfl
  simp [Expr.parts, Expr.isList] at hnone

/-- A choice between two cells whose condition is a range. -/
def rangeCondition : List Token :=
  [⟨.func, .opener, "IF("⟩, ⟨.operand, .range, "A1:B1"⟩, ⟨.sep, .arg, ","⟩,
    ⟨.operand, .range, "C1"⟩, ⟨.sep, .arg, ","⟩, ⟨.operand, .range, "D1"⟩,
    ⟨.func, .closer, ")"⟩]

/-- A range that is the condition of a choice is neither refused nor dissolved. -/
theorem choice_keeps_list :
    tokenize "=IF(A1:B1,C1,D1)" = .ok rangeCondition ∧
    (∀ reference s e, (twoMembers reference s).1 = .ok e → e.Flat) ∧
    ((parseFormula rangeCondition).resolved twoMembers id ()).1 =
      .ok (.conditional (.list [.var "first", .var "last"]) (.var "C1") (.var "D1")) ∧
    ¬(Expr.conditional (.list [.var "first", .var "last"]) (.var "C1") (.var "D1")).ListFree := by
  refine ⟨by cbv, flat_twoMembers, by cbv, fun h => ?_⟩
  have hlist := h (.list [.var "first", .var "last"]) (.part List.mem_cons_self (.here _))
  exact Bool.noConfusion hlist

end

end ReportCompiler.Formula
