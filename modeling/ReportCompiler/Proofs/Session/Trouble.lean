import ReportCompiler.Proofs.Session.Agreement
import ReportCompiler.Proofs.Session.Order

/-!
# What can go wrong in a session

A request may fail at any depth of the walk, for one of four reasons: a reference names nothing, the
formula of a cell has a fault, cells depend on each other in a circle, or two cells have the same
name.  The two other breaches that an error can report never happen.  In particular the bound on the
depth of the walk is never reached: the cells in progress are different cells with a formula, and
there are not more of them than formulas.

## Main definitions

* `Source.isFormulaCell` - the cell has a formula and no override.
* `Source.Circle` - a closed list of cells, each of which depends on the next.
* `Source.Trouble src T` - the errors that work on cells with `T` can end with.
* `Source.error?` - the error that a request ends with.

## Main results

* `Session.Sound.circle` - a cell that is asked for while it is in progress closes a circle.
* `trouble_ensureWithin` - **the walk from a cell fails only for the four reasons.**
* `trouble_of_error?` - the same for requests.
-/

namespace ReportCompiler

open Formula

/-! ### Cells in progress -/

namespace Source

variable {src : Source}

/-- The cell has a formula and no override. -/
def isFormulaCell (src : Source) (c : Address) : Bool :=
  match src.overrideOf c with
  | .ok none => (src.workbook.formula? c).isSome
  | _ => false

theorem isFormulaCell_of_formula {c : Address} (hover : src.overrideOf c = .ok none)
    (hformula : (src.workbook.formula? c).isSome) : src.isFormulaCell c := by
  rw [isFormulaCell, hover]
  exact hformula

theorem isSome_of_isFormulaCell {c : Address} (h : src.isFormulaCell c) :
    (src.workbook.formula? c).isSome := by
  unfold isFormulaCell at h
  split at h
  · exact h
  · cases h

theorem DependsOn.isFormulaCell {a b : Address} (h : src.DependsOn a b) : src.isFormulaCell a := by
  obtain ⟨ts, ⟨hover, formula, hformula, -⟩, -⟩ := h
  exact isFormulaCell_of_formula hover (by rw [hformula, Option.isSome_some])

end Source

namespace Session.Sound

variable {src : Source} {T : Address → Prop} {cells : List Address} {s : Session} {c : Address}

/-- All cells in progress but the innermost are compiled from their formulas. -/
theorem isFormulaCell_of_mem_tail (h : s.Sound src cells) :
    ∀ d ∈ s.chain.tail, src.isFormulaCell d := by
  have hlinked := h.linked
  generalize s.chain = chain at hlinked
  -- each of them depends on the one inside it
  induction chain with
  | nil => simp
  | cons inner outer ih =>
    obtain ⟨hhead, htail⟩ := List.isChain_cons.mp hlinked
    intro d hd
    rw [List.tail_cons] at hd
    cases outer with
    | nil => simp at hd
    | cons next rest =>
      rcases List.mem_cons.mp hd with rfl | hmem
      · exact (hhead d rfl).isFormulaCell
      · exact ih htail d hmem

/-- When another cell is asked for, so is the innermost. -/
theorem isFormulaCell_of_mem (h : s.Sound src cells) (hawaits : s.Awaits src T c) :
    ∀ d ∈ s.chain, src.isFormulaCell d := by
  intro d hd
  cases hchain : s.chain with
  | nil => simp [hchain] at hd
  | cons inner outer =>
    rw [hchain] at hd
    rcases List.mem_cons.mp hd with rfl | hmem
    · exact (hawaits.2 d (by simp [hchain])).isFormulaCell
    · exact h.isFormulaCell_of_mem_tail d (by rwa [hchain])

/-- When another cell is asked for, there are at most as many cells in progress as formulas. -/
theorem length_chain_le (h : s.Sound src cells) (hawaits : s.Awaits src T c)
    (htitle : ∀ d ∈ s.chain, src.workbook.HasTitle d.sheet) :
    s.chain.length ≤ src.workbook.formulaCount := by
  refine Workbook.length_le_formulaCount h.nodup fun d hd => ⟨htitle d hd, ?_⟩
  exact Source.isSome_of_isFormulaCell (h.isFormulaCell_of_mem hawaits d hd)

end Session.Sound

/-! ### Circles -/

/-- The cells begin and end with the same one, are otherwise different, and each depends on the
next. -/
structure Source.Circle (src : Source) (cells : List Address) : Prop where
  /-- There are at least two. -/
  two_le : 2 ≤ cells.length
  /-- The last one is the first one. -/
  closed : cells.head? = cells.getLast?
  /-- No cell but this one is met twice. -/
  nodup : cells.dropLast.Nodup
  /-- Each depends on the next. -/
  linked : cells.IsChain src.DependsOn

namespace Session

variable {src : Source} {cells : List Address} {s : Session} {c : Address}

/-- The circle runs from the outermost place of the cell to the innermost cell in progress, and
back. -/
theorem circle_eq {inner outer : List Address} (hchain : s.chain = inner ++ c :: outer)
    (hc : c ∉ outer) : s.circle c = (inner ++ [c]).reverse ++ [c] := by
  have hskip : ∀ d ∈ outer.reverse, (d != c) = true := by
    intro d hd
    rw [bne_iff_ne]
    rintro rfl
    exact hc (List.mem_reverse.mp hd)
  have hreverse : s.chain.reverse = outer.reverse ++ c :: inner.reverse := by
    rw [hchain, List.reverse_append, List.reverse_cons, List.append_assoc]
    rfl
  rw [circle, hreverse, List.dropWhile_append_of_pos hskip, List.dropWhile_cons_of_neg (by simp),
    List.reverse_append]
  rfl

/-- **A cell that is asked for while it is in progress closes a circle.** -/
theorem Sound.circle (h : s.Sound src cells) (hc : c ∈ s.chain)
    (hlink : ∀ outer ∈ s.chain.head?, src.DependsOn outer c) :
    src.Circle (s.circle c) ∧ (s.circle c).head? = some c := by
  obtain ⟨inner, outer, hchain⟩ := List.append_of_mem hc
  have hnodup := h.nodup
  have hlinked := h.linked
  rw [hchain] at hnodup hlinked hlink
  obtain ⟨hinner, houter, hapart⟩ := List.nodup_append.mp hnodup
  rw [circle_eq hchain (List.nodup_cons.mp houter).1]
  -- from the cell to the innermost one in progress, read from the outside to the inside
  have hwalk : (inner ++ [c]).reverse.IsChain src.DependsOn := by
    rw [List.isChain_reverse]
    refine List.IsChain.prefix hlinked ⟨outer, ?_⟩
    rw [List.append_assoc]
    rfl
  have hhead : (inner ++ c :: outer).head? = (inner ++ [c]).head? := by
    cases inner <;> rfl
  refine ⟨⟨?_, ?_, ?_, ?_⟩, ?_⟩
  · simp
  · rw [List.getLast?_concat]
    simp
  · rw [List.dropLast_concat, List.nodup_reverse]
    refine List.nodup_append.mpr ⟨hinner, List.nodup_singleton c, ?_⟩
    intro d hd e he
    exact hapart d hd e (by rw [List.mem_singleton.mp he]; exact List.mem_cons_self)
  · refine List.isChain_append.mpr ⟨hwalk, List.isChain_singleton c, ?_⟩
    rw [List.getLast?_reverse, ← hhead]
    rintro d hd _ ⟨⟩
    exact hlink d hd
  · simp

/-- A cell whose name is taken has the name of another cell. -/
theorem Sound.of_rival? (h : s.Sound src cells) {owner : Address}
    (hrival : s.rival? c = some owner) :
    owner ≠ c ∧ owner.variableName = c.variableName := by
  unfold rival? at hrival
  split at hrival
  · next known hknown =>
    split at hrival
    · cases hrival
    · next hne =>
      obtain rfl := Option.some.inj hrival
      exact ⟨hne, ((h.owners _ _).mp hknown).2⟩
  · cases hrival

end Session

/-! ### Errors -/

namespace Source

open SessionM

/-- The errors that work on cells with `T` can end with. -/
inductive Trouble (src : Source) (T : Address → Prop) : Error → Prop
  /-- A reference names nothing. -/
  | resolution (why : ReferenceError) : Trouble src T (.resolution why)
  /-- The formula of a cell has a fault. -/
  | formula {c : Address} (why : Fault) (hc : T c) (hformula : src.isFormulaCell c) :
    Trouble src T (.formula (some c) why)
  /-- Cells depend on each other in a circle. -/
  | cycle {cells : List Address} (hcircle : src.Circle cells)
    (hfirst : ∀ c ∈ cells.head?, T c) : Trouble src T (.cycle cells)
  /-- Two cells have the same name. -/
  | clash {c owner : Address} (hc : T c) (hne : owner ≠ c)
    (hname : owner.variableName = c.variableName) : Trouble src T (.breach (.nameClash c owner))

/-- The same inside a formula, whose cell is not known there. -/
def TroubleInside (src : Source) (T : Address → Prop) (why : Error) : Prop :=
  src.Trouble T why ∨ ∃ fault, why = .formula none fault

variable {src : Source} {T : Address → Prop}

/-- Outside the formula its cell is known. -/
theorem TroubleInside.inCell {c : Address} {why : Error} (h : src.TroubleInside T why) (hc : T c)
    (hformula : src.isFormulaCell c) : src.Trouble T (why.inCell c) := by
  rcases h with h | ⟨fault, rfl⟩
  · -- an error that has its cell keeps it
    cases h with
    | resolution why => exact .resolution why
    | formula why hd hdformula => exact .formula why hd hdformula
    | cycle hcircle hfirst => exact .cycle hcircle hfirst
    | clash hd hne hname => exact .clash hd hne hname
  · exact .formula fault hc hformula

theorem TroubleInside.ne_scopeLeft {why : Error} (h : src.TroubleInside T why) (cell : Address)
    (scope : List String) : why ≠ .breach (.scopeLeft cell scope) := by
  rcases h with h | ⟨fault, rfl⟩
  · cases h <;> simp
  · simp

/-- What is asked of the cells in progress and of the depth that is left: the cells have `T`, and
the walk may go on until there are more of them than formulas. -/
def Allows (src : Source) (T : Address → Prop) (depth : Nat) (chain : List Address) : Prop :=
  (∀ d ∈ chain, T d) ∧ src.workbook.formulaCount < depth + chain.length

theorem Allows.cons {depth : Nat} {chain : List Address} {c : Address}
    (h : src.Allows T (depth + 1) chain) (hc : T c) : src.Allows T depth (c :: chain) := by
  refine ⟨List.forall_mem_cons.mpr ⟨hc, h.1⟩, ?_⟩
  have hdepth := h.2
  rw [List.length_cons]
  omega

/-- With no depth left, no cell is asked for. -/
theorem not_allows_zero {before : List Address} {s : Session} {c : Address}
    (htitle : ∀ d, T d → src.workbook.HasTitle d.sheet) (h : s.Sound src before)
    (hawaits : s.Awaits src T c) : ¬ src.Allows T 0 s.chain := by
  rintro ⟨hchain, hdepth⟩
  have hlength := h.length_chain_le hawaits fun d hd => htitle d (hchain d hd)
  omega

section

variable (hT : ∀ a b, T a → src.DependsOn a b → T b)
  (htitle : ∀ d, T d → src.workbook.HasTitle d.sheet)

include hT htitle

/-- **The walk from a cell fails only for the four reasons**, as long as its depth allows for all
formulas. -/
theorem trouble_ensureWithin (depth : Nat) :
    EnsureAlike src T (src.Allows T depth) (src.Trouble T) (src.ensureWithin depth)
      (src.ensureWithin depth) := by
  induction depth with
  | zero =>
    intro c before s h hawaits hallows
    exact absurd hallows (not_allows_zero htitle h hawaits)
  | succ depth ih =>
    intro c before s h hawaits hallows
    rw [ensureWithin_succ]
    refine alike_visit ?_ ?_ ?_
    · -- the cell is in progress, and the innermost one depends on it
      intro hvisit
      have hmem : c ∈ s.chain := by
        by_contra hout
        rw [h.visits, if_neg hout] at hvisit
        split at hvisit <;> simp at hvisit
      obtain ⟨hcircle, hhead⟩ := h.circle hmem hawaits.2
      refine .cycle hcircle ?_
      rw [hhead]
      rintro _ ⟨⟩
      exact hawaits.1
    · intro owner hrival
      obtain ⟨hne, hname⟩ := h.of_rival? hrival
      exact .clash hawaits.1 hne hname
    · -- the cell is new, and its formula asks for others with less depth left
      intro hvisit hrival
      have hentered := h.enter (src.workbook.kind c) hvisit hrival hawaits.2
      have hinside : EnsureAlike src T (src.Allows T depth) (src.TroubleInside T)
          (src.ensureWithin depth) (src.ensureWithin depth) := ih.mono fun _ => Or.inl
      refine alike_exprOf (ensures_ensureWithin hT depth) hinside
        (fun why => Or.inl (.resolution why)) (fun why _ => Or.inr ⟨why, rfl⟩) hT hentered rfl
        hawaits.1 (fun _ _ => hallows.cons hawaits.1) .resolution ?_
      intro hover hformula why hinside
      exact hinside.inCell hawaits.1 (isFormulaCell_of_formula hover hformula)

/-! ### Requests -/

variable {before : List Address} {s : Session}

omit hT htitle in
/-- The bound on the depth allows for everything when nothing is in progress. -/
theorem allows_depthBound (hchain : s.chain = []) : src.Allows T src.depthBound s.chain := by
  rw [hchain]
  refine ⟨by simp, ?_⟩
  rw [depthBound, List.length_nil]
  omega

omit hT htitle in
/-- Between requests no sheet is in scope, and none is left in scope: a request for a cell is the
walk from it. -/
theorem ensure_eq_ensureWithin (h : s.Sound src before) (hchain : s.chain = [])
    (hscope : s.scope = []) {a c : Address} (hcanon : src.canonical a = .ok c) :
    src.ensure a s = src.ensureWithin src.depthBound c s := by
  obtain ⟨after, hgrown, -⟩ := ensures_ensureWithin (T := fun _ => True) (fun _ _ _ _ => trivial)
    src.depthBound c before s h (awaits_of_chain hchain trivial)
  rw [ensure_ok hcanon]
  rcases hrun : src.ensureWithin src.depthBound c s with ⟨result, s'⟩
  rw [hrun] at hgrown
  have hempty : s'.scope = [] := hgrown.scope.trans hscope
  simp only [hempty, List.isEmpty_nil, Bool.not_true, Bool.and_false]
  rfl

theorem trouble_of_ensure (h : s.Sound src before) (hchain : s.chain = []) (hscope : s.scope = [])
    {a : Address} (ha : ∀ c, src.canonical a = .ok c → T c) {why : Error}
    (herr : (src.ensure a s).1 = .error why) : src.Trouble T why := by
  rcases hcanon : src.canonical a with reason | c
  · rw [ensure_error hcanon] at herr
    rw [← Except.error.inj herr]
    exact .resolution reason
  · have hawaits : s.Awaits src T c := awaits_of_chain hchain (ha c hcanon)
    rw [ensure_eq_ensureWithin h hchain hscope hcanon] at herr
    exact (trouble_ensureWithin hT htitle src.depthBound c before s h hawaits
      (allows_depthBound hchain)).2 why herr

theorem trouble_of_read (h : s.Sound src before) (hchain : s.chain = [])
    (hlead : ∀ sheet ref c, src.LeadsTo sheet ref c → T c) {ts : List Token} {why : Error}
    (herr : (src.read ts s).1 = .error why) : src.TroubleInside T why := by
  have hinside : EnsureAlike src T (src.Allows T src.depthBound) (src.TroubleInside T)
      (src.ensureWithin src.depthBound) (src.ensureWithin src.depthBound) :=
    (trouble_ensureWithin hT htitle src.depthBound).mono fun _ => Or.inl
  obtain ⟨-, hwhy⟩ := alike_run (ensures_ensureWithin hT src.depthBound) hinside
    (fun why => Or.inl (.resolution why)) h (allows_depthBound hchain)
    (parseFormula_consumes Expr.Compositional.trivial ts) rfl
    (fun ref _ c hc => awaits_of_chain hchain (hlead _ ref c hc))
    (fun _ why _ _ => Or.inr ⟨why, rfl⟩)
  exact hwhy why herr

end

/-- The error of a result, if it is one. -/
def errorOf? {α : Type} : Except Error α → Option Error
  | .error why => some why
  | .ok _ => none

theorem errorOf?_eq_some {α : Type} {result : Except Error α} {why : Error} :
    errorOf? result = some why ↔ result = .error why := by
  cases result <;> simp [errorOf?]

/-- The error that a request ends with, if it fails. -/
def error? (src : Source) (s : Session) : Session.Request → Option Error
  | .cell a => errorOf? (src.ensure a s).1
  | .reference text => errorOf? (src.ensureReference text s).1
  | .tokens ts => errorOf? (src.read ts s).1
  | .formula text => errorOf? (src.formula text s).1

/-- **A request fails only for the four reasons**, or because a formula outside any cell has a
fault. -/
theorem trouble_of_error? {before : List Address} {s : Session} (h : s.Sound src before)
    (hchain : s.chain = []) (hscope : s.scope = []) {request : Session.Request} {why : Error}
    (herr : src.error? s request = some why) :
    src.TroubleInside (fun c => src.workbook.HasTitle c.sheet) why := by
  have hensure : ∀ {a why}, (src.ensure a s).1 = .error why →
      src.Trouble (fun c => src.workbook.HasTitle c.sheet) why := fun {a why} herr =>
    trouble_of_ensure (fun _ _ _ hab => hab.hasTitle) (fun _ hd => hd) h hchain hscope
      (fun c hc => hasTitle_of_canonical hc) herr
  have hread : ∀ {ts why}, (src.read ts s).1 = .error why →
      src.TroubleInside (fun c => src.workbook.HasTitle c.sheet) why := fun {ts why} herr =>
    trouble_of_read (fun _ _ _ hab => hab.hasTitle) (fun _ hd => hd) h hchain
      (fun _ _ _ hc => hc.hasTitle) herr
  cases request with
  | cell a => exact Or.inl (hensure (errorOf?_eq_some.mp herr))
  | reference text =>
    have herr := errorOf?_eq_some.mp herr
    rw [ensureReference] at herr
    cases hcell : src.workbook.resolveCell src.layout.defaultSheet text with
    | error reason =>
      rw [hcell] at herr
      rw [← Except.error.inj herr]
      exact Or.inl (.resolution reason)
    | ok c =>
      rw [hcell] at herr
      exact Or.inl (hensure herr)
  | tokens ts => exact hread (errorOf?_eq_some.mp herr)
  | formula text =>
    have herr := errorOf?_eq_some.mp herr
    cases htokens : tokenize text with
    | error reason =>
      rw [formula, compileFormula, htokens] at herr
      exact Or.inr ⟨_, (Except.error.inj herr).symm⟩
    | ok ts =>
      rw [formula_eq_read htokens] at herr
      exact hread herr

end Source

end ReportCompiler
