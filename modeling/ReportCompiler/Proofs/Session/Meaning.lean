import Mathlib.Logic.Relation
import ReportCompiler.Program.Session
import ReportCompiler.Proofs.Formula.References
import ReportCompiler.Proofs.Workbook.Titles

/-!
# The meaning of a cell

What a session binds the variable of a cell to can be said without a session: it is the override of
the cell, or its value, or its formula with every reference answered by the overrides and variables
of the cells that it names.

## Main definitions

* `Expr.vars` - the variables of an expression.
* `Source.meaning` - the expression of a cell.
* `Source.LeadsTo`, `Source.DependsOn` - a reference names a cell without override, and the
  formula of a cell has such a reference.
* `Source.Reachable` - a cell that requested cells lead to.

## Main results

* `vars_of_meaning` - **a variable of a meaning is the variable of a cell depended on.**
* `of_meaning` - what passes from parts to wholes holds of every meaning.
-/

namespace ReportCompiler

open Formula

/-! ### The variables of an expression -/

namespace Formula.Expr

mutual

/-- The variables of an expression, from left to right. -/
def vars : Expr → List String
  | number _ | text _ | bool _ | raw _ => []
  | var name => [name]
  | list items => varsAll items
  | group inner => inner.vars
  | unary _ operand => operand.vars
  | percent operand => operand.vars
  | binary _ left right => left.vars ++ right.vars
  | conditional cond onTrue onFalse => cond.vars ++ onTrue.vars ++ onFalse.vars
  | call _ args => varsAll args

/-- The variables of several expressions. -/
def varsAll : List Expr → List String
  | [] => []
  | e :: rest => e.vars ++ varsAll rest

end

theorem varsAll_eq_flatMap (es : List Expr) : varsAll es = es.flatMap vars := by
  induction es with
  | nil => rfl
  | cons e rest ih => rw [varsAll, ih, List.flatMap_cons]

/-- That all variables are of a given kind passes from parts to wholes. -/
theorem compositional_vars (N : String → Prop) :
    Compositional fun e => ∀ n ∈ e.vars, N n where
  number _ := by simp [vars]
  text _ := by simp [vars]
  bool _ := by simp [vars]
  items h e he n hn := by
    refine h n ?_
    rw [vars, varsAll_eq_flatMap]
    exact List.mem_flatMap.mpr ⟨e, he, hn⟩
  group h := h
  unary h := h
  percent h := h
  binary hl hr n hn := by
    rcases List.mem_append.mp hn with h | h
    · exact hl n h
    · exact hr n h
  conditional hc ht hf n hn := by
    rw [vars, List.mem_append, List.mem_append] at hn
    rcases hn with (h | h) | h
    · exact hc n h
    · exact ht n h
    · exact hf n h
  call h n hn := by
    rw [vars, varsAll_eq_flatMap] at hn
    obtain ⟨e, he, hmem⟩ := List.mem_flatMap.mp hn
    exact h e he n hmem

end Formula.Expr

theorem CellValue.vars_toExpr (v : CellValue) : v.toExpr.vars = [] := by
  cases v <;> rfl

theorem Override.vars_toExpr (accessor : String) (o : Override) :
    (o.toExpr accessor).vars = [] := by
  cases o with
  | constant value => exact value.vars_toExpr
  | label | getter | event => rfl

namespace Source

/-! ### Meanings -/

/-- What stands for a cell that is referred to: its override or its variable. -/
def standIn (src : Source) (cell : Address) : Except Error Expr :=
  match src.overrideOf cell with
  | .error why => .error (.resolution why)
  | .ok (some o) => .ok (o.toExpr src.layout.accessor)
  | .ok none => .ok (.var cell.variableName)

/-- What stands for a reference seen from a sheet: for a range, the list of what stands for its
cells. -/
def answer (src : Source) (sheet reference : String) : Except Error Expr :=
  match src.workbook.resolve sheet reference with
  | .error why => .error (.resolution why)
  | .ok (.cell a) => src.standIn a
  | .ok (.range cells) => do return .list (← cells.mapM src.standIn)

/-- The expression of a cell: its override, its value, or its formula with references answered on
the sheet of the cell. -/
def meaning (src : Source) (cell : Address) : Except Error Expr :=
  match src.overrideOf cell with
  | .error why => .error (.resolution why)
  | .ok (some o) => .ok (o.toExpr src.layout.accessor)
  | .ok none =>
    match src.workbook.formula? cell with
    | none => .ok (src.workbook.value cell).toExpr
    | some formula =>
      match tokenize formula with
      | .error why => .error (.formula (some cell) (.unsplit why))
      | .ok ts =>
        (parseFormula ts).run (src.answer cell.sheet) fun why => .error (.formula (some cell) why)

/-- The instruction of a cell: its variable bound to its meaning. -/
def instruction (src : Source) (cell : Address) : Except Error Instruction :=
  (src.meaning cell).map fun e => ⟨cell.variableName, e⟩

/-! ### Dependence -/

/-- The reference, seen from the sheet, names the cell, which has no override. -/
def LeadsTo (src : Source) (sheet reference : String) (cell : Address) : Prop :=
  ∃ named, src.workbook.resolve sheet reference = .ok named ∧ cell ∈ named.cells ∧
    src.overrideOf cell = .ok none

/-- The cell has no override and its formula has the tokens. -/
def HasTokens (src : Source) (cell : Address) (ts : List Token) : Prop :=
  src.overrideOf cell = .ok none ∧
    ∃ formula, src.workbook.formula? cell = some formula ∧ tokenize formula = .ok ts

/-- The first cell has no override, and a reference of its formula leads to the second. -/
def DependsOn (src : Source) (a b : Address) : Prop :=
  ∃ ts, src.HasTokens a ts ∧ ∃ ref ∈ references ts, src.LeadsTo a.sheet ref b

/-- Some requested cell, with its title as the workbook writes it, is the cell or leads to it. -/
def Reachable (src : Source) (requested : List Address) (cell : Address) : Prop :=
  ∃ a ∈ requested, ∃ start, src.canonical a = .ok start ∧
    Relation.ReflTransGen src.DependsOn start cell

variable {src : Source}

theorem HasTokens.eq {cell : Address} {ts ts' : List Token} (h : src.HasTokens cell ts)
    (h' : src.HasTokens cell ts') : ts = ts' := by
  obtain ⟨-, formula, hformula, htokens⟩ := h
  obtain ⟨-, formula', hformula', htokens'⟩ := h'
  rw [hformula] at hformula'
  obtain rfl := Option.some.inj hformula'
  exact Except.ok.inj (htokens.symm.trans htokens')

/-! ### Titles

Cells that a formula leads to, and cells that are asked for by an address, carry titles as the
workbook writes them. -/

theorem LeadsTo.hasTitle {sheet reference : String} {cell : Address}
    (h : src.LeadsTo sheet reference cell) : src.workbook.HasTitle cell.sheet := by
  obtain ⟨named, hnamed, hcell, -⟩ := h
  exact Workbook.hasTitle_of_resolve hnamed cell hcell

theorem DependsOn.hasTitle {a b : Address} (h : src.DependsOn a b) :
    src.workbook.HasTitle b.sheet := by
  obtain ⟨ts, -, ref, -, hlead⟩ := h
  exact hlead.hasTitle

theorem hasTitle_of_canonical {a cell : Address} (h : src.canonical a = .ok cell) :
    src.workbook.HasTitle cell.sheet := by
  unfold canonical at h
  split at h
  · next s hs =>
    rw [← Except.ok.inj h]
    exact Workbook.hasTitle_of_sheet? hs
  · cases h

theorem canonical_of_sheet? {cell : Address} {title : String} {s : Sheet}
    (h : src.workbook.sheet? title = some s) (hname : s.name = cell.sheet) :
    src.canonical { cell with sheet := title } = .ok cell := by
  rw [canonical, h]
  simp only [hname]

/-- Where titles are distinct, the case in which the title of a cell is spelled does not matter. -/
theorem canonical_fold (hdistinct : src.workbook.TitlesDistinct) {cell : Address}
    {spelling : String} (h : src.workbook.HasTitle cell.sheet)
    (hfold : Text.sameFold spelling cell.sheet) :
    src.canonical { cell with sheet := spelling } = .ok cell := by
  obtain ⟨s, hs, hname⟩ := h.exists_sheet?_fold hdistinct hfold
  exact canonical_of_sheet? hs hname

/-! ### Cells with a meaning -/

theorem HasTokens.meaning_eq {cell : Address} {ts : List Token} (h : src.HasTokens cell ts) :
    src.meaning cell = (parseFormula ts).run (src.answer cell.sheet) fun why =>
      .error (.formula (some cell) why) := by
  obtain ⟨hover, formula, hformula, htokens⟩ := h
  rw [meaning, hover]
  simp only [hformula, htokens]

/-- A cell without override and with a formula has tokens, once it has a meaning. -/
theorem hasTokens_or_vars_of_meaning {cell : Address} {e : Expr} (h : src.meaning cell = .ok e) :
    (∃ ts, src.HasTokens cell ts) ∨ e.vars = [] := by
  unfold meaning at h
  split at h
  · simp at h
  · rw [← Except.ok.inj h]
    exact Or.inr (Override.vars_toExpr _ _)
  · next hover =>
    split at h
    · rw [← Except.ok.inj h]
      exact Or.inr (CellValue.vars_toExpr _)
    · next formula hformula =>
      split at h
      · simp at h
      · next ts htokens => exact Or.inl ⟨ts, hover, formula, hformula, htokens⟩

/-! ### The variables of a meaning -/

theorem vars_of_standIn {cell : Address} {e : Expr} (h : src.standIn cell = .ok e) :
    ∀ n ∈ e.vars, src.overrideOf cell = .ok none ∧ n = cell.variableName := by
  unfold standIn at h
  split at h
  · simp at h
  · rw [← Except.ok.inj h, Override.vars_toExpr]
    simp
  · next hover =>
    rw [← Except.ok.inj h]
    intro n hn
    exact ⟨hover, List.mem_singleton.mp hn⟩

theorem exists_of_mem_mapM {ε α β : Type} {f : α → Except ε β} {as : List α} {bs : List β}
    (h : as.mapM f = .ok bs) : ∀ b ∈ bs, ∃ a ∈ as, f a = .ok b := by
  induction as generalizing bs with
  | nil =>
    rw [List.mapM_nil] at h
    rw [← Except.ok.inj h]
    simp
  | cons a rest ih =>
    rw [List.mapM_cons] at h
    cases ha : f a with
    | error why => rw [ha] at h; cases h
    | ok b =>
      cases hrest : rest.mapM f with
      | error why => rw [ha, hrest] at h; cases h
      | ok bs' =>
        rw [ha, hrest] at h
        rw [← Except.ok.inj h]
        refine List.forall_mem_cons.mpr ⟨⟨a, List.mem_cons_self, ha⟩, fun b' hb' => ?_⟩
        obtain ⟨a', ha', hb⟩ := ih hrest b' hb'
        exact ⟨a', List.mem_cons_of_mem _ ha', hb⟩

theorem vars_of_mapM_standIn {cells : List Address} {es : List Expr}
    (h : cells.mapM src.standIn = .ok es) :
    ∀ e ∈ es, ∀ n ∈ e.vars, ∃ c ∈ cells, src.overrideOf c = .ok none ∧ n = c.variableName := by
  intro e he n hn
  obtain ⟨c, hc, hstandIn⟩ := exists_of_mem_mapM h e he
  exact ⟨c, hc, vars_of_standIn hstandIn n hn⟩

theorem vars_of_answer {sheet reference : String} {e : Expr}
    (h : src.answer sheet reference = .ok e) :
    ∀ n ∈ e.vars, ∃ c, src.LeadsTo sheet reference c ∧ n = c.variableName := by
  unfold answer at h
  split at h
  · simp at h
  · next a hres =>
    intro n hn
    obtain ⟨hover, hname⟩ := vars_of_standIn h n hn
    exact ⟨a, ⟨.cell a, hres, List.mem_singleton.mpr rfl, hover⟩, hname⟩
  · next cells hres =>
    intro n hn
    cases hmap : cells.mapM src.standIn with
    | error why => rw [hmap] at h; cases h
    | ok es =>
      rw [hmap] at h
      rw [← Except.ok.inj h, Expr.vars, Expr.varsAll_eq_flatMap] at hn
      obtain ⟨e', he', hn'⟩ := List.mem_flatMap.mp hn
      obtain ⟨c, hc, hover, hname⟩ := vars_of_mapM_standIn hmap e' he' n hn'
      exact ⟨c, ⟨.range cells, hres, hc, hover⟩, hname⟩

/-- **A variable of the meaning of a cell is the variable of a cell that it depends on.** -/
theorem vars_of_meaning {cell : Address} {e : Expr} (h : src.meaning cell = .ok e) :
    ∀ n ∈ e.vars, ∃ c, src.DependsOn cell c ∧ n = c.variableName := by
  rcases hasTokens_or_vars_of_meaning h with ⟨ts, hts⟩ | hvars
  · rw [hts.meaning_eq] at h
    -- the property is that of the answers, and it passes from parts to wholes
    have hcomp := Expr.compositional_vars fun n => ∃ c, src.DependsOn cell c ∧ n = c.variableName
    have hanswer := (parseFormula_consumes hcomp ts).of_run (fun ref href e' he' n hn => by
      obtain ⟨c, hc, hname⟩ := vars_of_answer he' n hn
      exact ⟨c, ⟨ts, hts, ref, href, hc⟩, hname⟩) h
    obtain ⟨rest, hvars, -⟩ := hanswer
    exact hvars
  · rw [hvars]
    simp

/-! ### Properties of meanings -/

section

variable {P : Expr → Prop} (hvar : ∀ name, P (.var name))
  (hoverride : ∀ o : Override, P (o.toExpr src.layout.accessor))
  (hlist : ∀ items, (∀ e ∈ items, P e) → P (.list items))

include hvar hoverride

theorem of_standIn {cell : Address} {e : Expr} (h : src.standIn cell = .ok e) : P e := by
  unfold standIn at h
  split at h
  · cases h
  · rw [← Except.ok.inj h]
    exact hoverride _
  · rw [← Except.ok.inj h]
    exact hvar _

include hlist

theorem of_answer {sheet reference : String} {e : Expr} (h : src.answer sheet reference = .ok e) :
    P e := by
  unfold answer at h
  split at h
  · cases h
  · exact of_standIn hvar hoverride h
  · next cells _ =>
    cases hmap : cells.mapM src.standIn with
    | error why => rw [hmap] at h; cases h
    | ok es =>
      rw [hmap] at h
      rw [← Except.ok.inj h]
      refine hlist es fun e' he' => ?_
      obtain ⟨c, -, hstandIn⟩ := exists_of_mem_mapM hmap e' he'
      exact of_standIn hvar hoverride hstandIn

/-- What passes from parts to wholes and from members to lists, and holds of variables and of
overrides, holds of every meaning. -/
theorem of_meaning (hP : Expr.Compositional P) {cell : Address} {e : Expr}
    (h : src.meaning cell = .ok e) : P e := by
  unfold meaning at h
  split at h
  · cases h
  · rw [← Except.ok.inj h]
    exact hoverride _
  · split at h
    · -- the value of a cell is a literal
      rw [← Except.ok.inj h]
      cases src.workbook.value cell with
      | number n => exact hP.number _
      | boolean b => exact hP.bool b
      | empty | text s | error s => exact hP.text _
    · split at h
      · cases h
      · next ts _ =>
        obtain ⟨-, hmeaning, -⟩ := (parseFormula_consumes hP ts).of_run
          (fun _ _ _ => of_answer hvar hoverride hlist) h
        exact hmeaning

end

end Source

end ReportCompiler
