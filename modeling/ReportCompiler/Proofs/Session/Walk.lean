import ReportCompiler.Proofs.Session.Invariant

/-!
# The walk of a session through the cells

A session goes from a cell to the cells that its formula refers to and comes back.  On the way it
answers every reference as if there were no session, and all cells that a reference leads to are
done when the reference has been answered.

## Main definitions

* `Session.Awaits src T s c` - the innermost cell in progress depends on `c`.
* `Ensures src T ensure` - what is asked of the function that makes sure of single cells.

## Main results

* `ensures_ensureWithin` - **making sure of a cell** keeps a session sound, and leads only to cells
  in a given set that is closed under dependence.
* `does_ensure`, `does_ensureReference` - the same for whole requests.
-/

namespace ReportCompiler

open Formula

/-- The cell is in the set, and the innermost cell in progress, if there is one, depends on it. -/
def Session.Awaits (src : Source) (T : Address → Prop) (s : Session) (c : Address) : Prop :=
  T c ∧ ∀ outer ∈ s.chain.head?, src.DependsOn outer c

theorem Session.Awaits.of_grown {src : Source} {T : Address → Prop} {before after : List Address}
    {s s' : Session} {c : Address} (h : s.Awaits src T c)
    (hgrown : Session.Grown src T before s after s') : s'.Awaits src T c := by
  refine ⟨h.1, ?_⟩
  rw [hgrown.chain]
  exact h.2

theorem Session.Grown.currentSheet {src : Source} {T : Address → Prop}
    {before after : List Address} {s s' : Session} (h : Session.Grown src T before s after s')
    (layout : Layout) : s'.currentSheet layout = s.currentSheet layout := by
  rw [Session.currentSheet, h.scope, Session.currentSheet]

/-- The function makes sure that a cell is done, and gives its variable. -/
def Ensures (src : Source) (T : Address → Prop) (ensure : Address → SessionM String) : Prop :=
  ∀ c before s, s.Sound src before → s.Awaits src T c →
    SessionM.Does src T (fun after n => n = c.variableName ∧ c ∈ after) (ensure c) before s

namespace Source

variable {src : Source} {T : Address → Prop} {ensure : Address → SessionM String}
  {before : List Address} {s : Session}

open SessionM

/-! ### References -/

theorem does_member (hens : Ensures src T ensure) (h : s.Sound src before) {c : Address}
    (hc : src.overrideOf c = .ok none → s.Awaits src T c) :
    Does src T (fun after e => src.standIn c = .ok e ∧ (src.overrideOf c = .ok none → c ∈ after))
      (src.member ensure c) before s := by
  unfold member standIn
  cases hover : src.overrideOf c with
  | error why => exact does_throw h
  | ok o =>
    cases o with
    | some o => exact does_pure h ⟨rfl, by simp⟩
    | none =>
      refine (hens c before s h (hc hover)).bind ?_
      rintro n after s' hgrown ⟨rfl, hmem⟩
      exact does_pure hgrown.sound ⟨rfl, fun _ => hmem⟩

theorem does_members (hens : Ensures src T ensure) (h : s.Sound src before)
    {cells : List Address}
    (hcells : ∀ c ∈ cells, src.overrideOf c = .ok none → s.Awaits src T c) :
    Does src T (fun after es => cells.mapM src.standIn = .ok es ∧
        ∀ c ∈ cells, src.overrideOf c = .ok none → c ∈ after)
      (cells.mapM (src.member ensure)) before s := by
  induction cells generalizing before s with
  | nil =>
    rw [List.mapM_nil, List.mapM_nil]
    exact does_pure h ⟨rfl, by simp⟩
  | cons c rest ih =>
    rw [List.mapM_cons, List.mapM_cons]
    refine (does_member hens h (hcells c List.mem_cons_self)).bind ?_
    rintro e after s' hgrown ⟨he, hc⟩
    -- the chain is as before, so the other members are still awaited
    have hrest : ∀ d ∈ rest, src.overrideOf d = .ok none → s'.Awaits src T d := fun d hd hover =>
      (hcells d (List.mem_cons_of_mem _ hd) hover).of_grown hgrown
    refine (ih hgrown.sound hrest).bind ?_
    rintro es later s'' hgrown' ⟨hes, hmem⟩
    refine does_pure hgrown'.sound ⟨?_, ?_⟩
    · rw [he, hes]
      rfl
    · intro d hd hover
      rcases List.mem_cons.mp hd with rfl | hd
      · exact hgrown'.mem (hc hover)
      · exact hmem d hd hover

/-- A reference is answered as without a session, and the cells that it leads to are done. -/
theorem does_operandWith (hens : Ensures src T ensure) (h : s.Sound src before) {ref : String}
    (href : ∀ c, src.LeadsTo (s.currentSheet src.layout) ref c → s.Awaits src T c) :
    Does src T (fun after e => src.answer (s.currentSheet src.layout) ref = .ok e ∧
        ∀ c, src.LeadsTo (s.currentSheet src.layout) ref c → c ∈ after)
      (src.operandWith ensure ref) before s := by
  unfold answer LeadsTo operandWith
  unfold LeadsTo at href
  refine does_get_bind ?_
  rcases hres : src.workbook.resolve (s.currentSheet src.layout) ref with why | named
  · exact does_throw h
  rcases named with a | cells
  · have hmember := does_member hens h fun hover =>
      href a ⟨_, hres, List.mem_singleton.mpr rfl, hover⟩
    refine hmember.mono ?_
    rintro after e ⟨he, hmem⟩
    refine ⟨he, ?_⟩
    rintro c ⟨named, hnamed, hc, hover⟩
    obtain rfl := Except.ok.inj hnamed
    obtain rfl := List.mem_singleton.mp hc
    exact hmem hover
  · refine (does_members hens h fun c hc hover => href c ⟨_, hres, hc, hover⟩).bind ?_
    rintro es after s' hgrown ⟨(hes : cells.mapM src.standIn = .ok es), hmem⟩
    refine does_pure hgrown.sound ⟨?_, ?_⟩
    · simp only [hes]
      rfl
    · rintro c ⟨named, hnamed, hc, hover⟩
      obtain rfl := Except.ok.inj hnamed
      exact hmem c hc hover

/-! ### Formulas -/

/-- A reading is answered as without a session, and the cells that the references it has asked for
lead to are done. -/
theorem does_run (hens : Ensures src T ensure) (h : s.Sound src before) {α : Type}
    {r : Reading α} {refs : List String} {Q : List String → α → Prop}
    (hr : r.Consumes (fun _ => True) Q refs) (raise : Fault → Error) {sheet : String}
    (hsheet : s.currentSheet src.layout = sheet)
    (hrefs : ∀ ref ∈ refs, ∀ c, src.LeadsTo sheet ref c → s.Awaits src T c) :
    Does src T (fun after a => (r.run (src.answer sheet) fun why => .error (raise why)) = .ok a ∧
        ∃ asked rest, refs = asked ++ rest ∧ Q rest a ∧
          ∀ ref ∈ asked, ∀ c, src.LeadsTo sheet ref c → c ∈ after)
      (r.run (src.operandWith ensure) fun why => throw (.formula none why)) before s := by
  induction r generalizing refs before s with
  | done a => exact does_pure h ⟨rfl, [], refs, rfl, hr, by simp⟩
  | fault why => exact does_throw h
  | ask ref next ih =>
    obtain ⟨rest, rfl, hnext⟩ := hr
    have href := hrefs ref List.mem_cons_self
    rw [← hsheet] at href
    rw [Reading.run, Reading.run]
    refine (does_operandWith hens h href).bind ?_
    rintro e after s' hgrown ⟨he, hmem⟩
    rw [hsheet] at he hmem
    -- answering may have led far away, but the sheet and the chain are as before
    have hrest : ∀ ref' ∈ rest, ∀ c, src.LeadsTo sheet ref' c → s'.Awaits src T c :=
      fun ref' href' c hc => (hrefs ref' (List.mem_cons_of_mem _ href') c hc).of_grown hgrown
    have hsheet' : s'.currentSheet src.layout = sheet := by rw [hgrown.currentSheet, hsheet]
    obtain ⟨later, hgrown', hres⟩ := ih e hgrown.sound (hnext e trivial) hsheet' hrest
    refine ⟨later, hgrown', ?_⟩
    intro a ha
    obtain ⟨hrun, asked, rest', hsplit, hQ, hasked⟩ := hres a ha
    refine ⟨?_, ref :: asked, rest', ?_, hQ, ?_⟩
    · rw [he]
      exact hrun
    · rw [hsplit, List.cons_append]
    · intro ref' href' c hc
      rcases List.mem_cons.mp href' with rfl | hold
      · exact hgrown'.mem (hmem c hc)
      · exact hasked ref' hold c hc

/-- A whole formula: all cells that its references lead to are done. -/
theorem does_tokens (hens : Ensures src T ensure) (h : s.Sound src before) (ts : List Token)
    (raise : Fault → Error) {sheet : String} (hsheet : s.currentSheet src.layout = sheet)
    (hrefs : ∀ ref ∈ references ts, ∀ c, src.LeadsTo sheet ref c → s.Awaits src T c) :
    Does src T (fun after e =>
        ((parseFormula ts).run (src.answer sheet) fun why => .error (raise why)) = .ok e ∧
          ∀ ref ∈ references ts, ∀ c, src.LeadsTo sheet ref c → c ∈ after)
      ((parseFormula ts).run (src.operandWith ensure) fun why => throw (.formula none why))
      before s := by
  have hconsumes := parseFormula_consumes Expr.Compositional.trivial ts
  refine (does_run hens h hconsumes raise hsheet hrefs).mono ?_
  rintro after e ⟨hrun, asked, rest, hsplit, ⟨-, rfl⟩, hasked⟩
  rw [List.append_nil] at hsplit
  exact ⟨hrun, fun ref href => hasked ref (hsplit ▸ href)⟩

/-- Work done with one more sheet in scope, which is left again. -/
theorem does_onSheet {α : Type} {Q : List Address → α → Prop} {m : SessionM α} {sheet : String}
    (f : Error → Error) (h : Does src T Q m before { s with scope := sheet :: s.scope }) :
    Does src T Q (fun s =>
      let (result, s') := m { s with scope := sheet :: s.scope }
      (result.mapError f, { s' with scope := s'.scope.tail })) before s := by
  obtain ⟨after, hgrown, hres⟩ := h
  rcases hm : m { s with scope := sheet :: s.scope } with ⟨result, s'⟩
  rw [hm] at hgrown hres
  have hgrown' : Session.Grown src T before s after { s' with scope := s'.scope.tail } :=
    ⟨hgrown.sound.withScope _, hgrown.chain, congrArg List.tail hgrown.scope, hgrown.grown⟩
  refine does_of_eq (by simp only [hm]; rfl) hgrown' ?_
  intro a ha
  cases result with
  | error why => cases ha
  | ok b => exact hres a ha

theorem does_compileOnSheet (hens : Ensures src T ensure) (h : s.Sound src before) {c : Address}
    {formula : String} (raise : Fault → Error)
    (hrefs : ∀ ts, tokenize formula = .ok ts → ∀ ref ∈ references ts, ∀ d,
      src.LeadsTo c.sheet ref d → s.Awaits src T d) :
    Does src T (fun after e => ∃ ts, tokenize formula = .ok ts ∧
        ((parseFormula ts).run (src.answer c.sheet) fun why => .error (raise why)) = .ok e ∧
          ∀ ref ∈ references ts, ∀ d, src.LeadsTo c.sheet ref d → d ∈ after)
      (compileOnSheet (src.operandWith ensure) c formula) before s := by
  refine does_onSheet (Error.inCell c) ?_
  cases htokens : tokenize formula with
  | error why => exact does_throw (h.withScope _)
  | ok ts =>
    have hwalk := does_tokens hens (h.withScope (c.sheet :: s.scope)) ts raise rfl
      (hrefs ts htokens)
    refine hwalk.mono ?_
    rintro after e ⟨hrun, hmem⟩
    exact ⟨ts, rfl, hrun, hmem⟩

/-- The references in the formula of the innermost cell in progress lead to cells that it
awaits. -/
theorem awaits_of_references (hT : ∀ a b, T a → src.DependsOn a b → T b) {c : Address}
    {outer : List Address} (hchain : s.chain = c :: outer) (hc : T c) {formula : String}
    (hover : src.overrideOf c = .ok none) (hformula : src.workbook.formula? c = some formula) :
    ∀ ts, tokenize formula = .ok ts → ∀ ref ∈ references ts, ∀ d, src.LeadsTo c.sheet ref d →
      s.Awaits src T d := by
  intro ts hts ref href d hd
  have hcd : src.DependsOn c d := ⟨ts, ⟨hover, formula, hformula, hts⟩, ref, href, hd⟩
  refine ⟨hT c d hc hcd, ?_⟩
  rw [hchain]
  rintro _ ⟨⟩
  exact hcd

/-- The expression of the innermost cell in progress is its meaning, and the cells that it depends
on are done. -/
theorem does_exprOf (hens : Ensures src T ensure) (hT : ∀ a b, T a → src.DependsOn a b → T b)
    (h : s.Sound src before) {c : Address} {outer : List Address} (hchain : s.chain = c :: outer)
    (hc : T c) :
    Does src T (fun after e => src.meaning c = .ok e ∧ ∀ d, src.DependsOn c d → d ∈ after)
      (src.exprOf (src.operandWith ensure) c) before s := by
  unfold exprOf meaning
  cases hover : src.overrideOf c with
  | error why => exact does_throw h
  | ok o =>
    cases o with
    | some o =>
      refine does_pure h ⟨rfl, ?_⟩
      rintro d ⟨ts, ⟨hnone, -⟩, -⟩
      simp [hover] at hnone
    | none =>
      cases hformula : src.workbook.formula? c with
      | none =>
        refine does_pure h ⟨rfl, ?_⟩
        rintro d ⟨ts, ⟨-, formula, hsome, -⟩, -⟩
        simp [hformula] at hsome
      | some formula =>
        have hrefs := awaits_of_references hT hchain hc hover hformula
        refine (does_compileOnSheet hens h (.formula (some c)) hrefs).mono ?_
        rintro after e ⟨ts, hts, hrun, hmem⟩
        refine ⟨by simp only [hts, hrun], ?_⟩
        rintro d ⟨ts', hts', ref, href, hd⟩
        obtain rfl := HasTokens.eq hts' ⟨hover, formula, hformula, hts⟩
        exact hmem ref href d hd

/-! ### Cells

What making sure of a cell comes to, by what the session knows about the cell. -/

section

variable {depth : Nat} {c : Address}

theorem ensureWithin_done {name : String} (h : s.visits[c]? = some (.done name)) :
    src.ensureWithin (depth + 1) c s = (.ok name, s) := by
  simp only [ensureWithin, h]

theorem ensureWithin_inProgress (h : s.visits[c]? = some .inProgress) :
    src.ensureWithin (depth + 1) c s = (.error (.cycle (s.circle c)), s) := by
  simp only [ensureWithin, h]

theorem ensureWithin_rival {owner : Address} (h : s.visits[c]? = none)
    (hrival : s.rival? c = some owner) :
    src.ensureWithin (depth + 1) c s = (.error (.breach (.nameClash c owner)), s) := by
  simp only [ensureWithin, h, hrival]

theorem ensureWithin_abandon {why : Error} {s' : Session} (h : s.visits[c]? = none)
    (hrival : s.rival? c = none)
    (hexpr : src.exprOf (src.operandWith (src.ensureWithin depth)) c
      (s.enter c (src.workbook.kind c)) = (.error why, s')) :
    src.ensureWithin (depth + 1) c s = (.error why, s'.abandon c) := by
  simp only [ensureWithin, h, hrival, hexpr]

theorem ensureWithin_finish {e : Expr} {s' : Session} (h : s.visits[c]? = none)
    (hrival : s.rival? c = none)
    (hexpr : src.exprOf (src.operandWith (src.ensureWithin depth)) c
      (s.enter c (src.workbook.kind c)) = (.ok e, s')) :
    src.ensureWithin (depth + 1) c s = (.ok c.variableName, s'.finish c e) := by
  simp only [ensureWithin, h, hrival, hexpr]

end

/-- **Making sure of a cell**: whatever happens, the session stays sound, the cells in progress are
the same afterwards, and only cells of a set that is closed under dependence are done in
addition. -/
theorem ensures_ensureWithin (hT : ∀ a b, T a → src.DependsOn a b → T b) (depth : Nat) :
    Ensures src T (src.ensureWithin depth) := by
  induction depth with
  | zero => exact fun c before s h _ => does_throw h
  | succ depth ih =>
    intro c before s h hawaits
    rcases hvisit : s.visits[c]? with _ | visit
    · rcases hrival : s.rival? c with _ | owner
      · -- the cell is new: it is entered, compiled, and then finished or given up
        have hentered := h.enter (src.workbook.kind c) hvisit hrival hawaits.2
        obtain ⟨after, hgrown, hres⟩ := does_exprOf ih hT hentered rfl hawaits.1
        rcases hexpr : src.exprOf (src.operandWith (src.ensureWithin depth)) c
          (s.enter c (src.workbook.kind c)) with ⟨why | e, s'⟩
        · rw [hexpr] at hgrown
          have habandon := ensureWithin_abandon hvisit hrival hexpr
          exact does_of_eq habandon hgrown.abandon (by rintro n ⟨⟩)
        · rw [hexpr] at hgrown hres
          obtain ⟨hmeans, hdepends⟩ := hres e rfl
          refine does_of_eq (ensureWithin_finish hvisit hrival hexpr)
            (hgrown.finish hmeans hdepends hawaits.1) ?_
          rintro n ⟨⟩
          exact ⟨rfl, by simp⟩
      · -- another cell has the same name
        exact does_of_eq (ensureWithin_rival hvisit hrival) (.refl h) (by rintro n ⟨⟩)
    · -- the cell is known: it is done, or it is in progress and needs itself
      cases visit with
      | inProgress => exact does_of_eq (ensureWithin_inProgress hvisit) (.refl h) (by rintro n ⟨⟩)
      | done name =>
        refine does_of_eq (ensureWithin_done hvisit) (.refl h) ?_
        rintro n ⟨⟩
        exact h.mem_of_done hvisit

/-! ### Requests -/

theorem awaits_of_chain {c : Address} (hchain : s.chain = []) (hc : T c) : s.Awaits src T c := by
  refine ⟨hc, ?_⟩
  rw [hchain]
  rintro _ ⟨⟩

theorem ensure_error {a : Address} {why : ReferenceError} (h : src.canonical a = .error why) :
    src.ensure a s = (.error (.resolution why), s) := by
  unfold ensure
  simp only [h]
  rfl

theorem ensure_ok {a c : Address} (h : src.canonical a = .ok c) :
    src.ensure a s =
      let (result, s') := src.ensureWithin src.depthBound c s
      if s.chain.isEmpty && !s'.scope.isEmpty then
        (.error (.breach (.scopeLeft c s'.scope.reverse)), s')
      else (result, s') := by
  unfold ensure
  simp only [h]
  rfl

/-- Making sure of a cell outside any formula. -/
theorem does_ensure (hT : ∀ a b, T a → src.DependsOn a b → T b) (h : s.Sound src before)
    (hchain : s.chain = []) {a : Address} (ha : ∀ c, src.canonical a = .ok c → T c) :
    Does src T (fun after n => ∃ c, src.canonical a = .ok c ∧ n = c.variableName ∧ c ∈ after)
      (src.ensure a) before s := by
  rcases hcanon : src.canonical a with why | c
  · exact does_of_eq (ensure_error hcanon) (.refl h) (by rintro n ⟨⟩)
  · obtain ⟨after, hgrown, hres⟩ := ensures_ensureWithin hT src.depthBound c before s h
      (awaits_of_chain hchain (ha c hcanon))
    rcases hrun : src.ensureWithin src.depthBound c s with ⟨result, s'⟩
    rw [hrun] at hgrown hres
    have heq := ensure_ok (s := s) hcanon
    simp only [hrun] at heq
    split at heq
    · exact does_of_eq heq hgrown (by rintro n ⟨⟩)
    · refine does_of_eq heq hgrown ?_
      intro n hn
      exact ⟨c, rfl, hres n hn⟩

/-- Making sure of the cell of a reference outside any formula. -/
theorem does_ensureReference (hT : ∀ a b, T a → src.DependsOn a b → T b) (h : s.Sound src before)
    (hchain : s.chain = []) {reference : String} (hall : ∀ a c, src.canonical a = .ok c → T c) :
    Does src T (fun _ _ => True) (src.ensureReference reference) before s := by
  unfold ensureReference
  split
  · exact does_throw h
  · exact (does_ensure hT h hchain (hall _)).mono fun _ _ _ => trivial

end Source

end ReportCompiler
