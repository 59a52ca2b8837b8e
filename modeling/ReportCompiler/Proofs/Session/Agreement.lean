import ReportCompiler.Proofs.Session.Walk

/-!
# Walks that come to the same

A session goes through a formula by asking for one cell after another.  Two ways of answering these
requests lead through the formula in the same way as long as they agree on the cells that are really
asked for, in the sessions in which they are asked for.  Errors are passed on from the inside to the
outside, and only get the cell in which they arose.  A formula adds an error of its own only after
all cells that it has asked for are translated.

## Main definitions

* `SessionM.Alike E m m' s` - from `s`, `m` and `m'` come to the same, and an error satisfies `E`.
* `EnsureAlike` - the same of two ways to make sure of cells, wherever these are asked for.
* `Formula.Reading.StopsAfter` - a reading asks for some references and then stops with a fault.
* `Source.Translates` - a cell and all cells that it leads to have a meaning.
* `Source.OwnFault` - the formula of a cell has a fault that is not one of another cell.
* `Source.visit` - one call of the recursion, with the expression of the cell left open.

## Main results

* `alike_exprOf` - **agreement about cells passes to the expression of a cell.**
* `alike_visit` - and from there to the call for the cell.
-/

namespace ReportCompiler

open Formula

namespace SessionM

/-- From the session `s` the two pieces of work come to the same, and if they fail, then with an
error that satisfies `E`. -/
def Alike {α : Type} (E : Error → Prop) (m m' : SessionM α) (s : Session) : Prop :=
  m s = m' s ∧ ∀ why, (m s).1 = .error why → E why

variable {src : Source} {T : Address → Prop} {E : Error → Prop} {α β : Type}
  {Q : List Address → α → Prop} {before : List Address} {s : Session}

theorem alike_pure (a : α) : Alike E (pure a) (pure a) s :=
  ⟨rfl, fun _ h => nomatch h⟩

theorem alike_throw {e : Error} (he : E e) :
    Alike E (throw e : SessionM α) (throw e : SessionM α) s := by
  refine ⟨rfl, ?_⟩
  intro why hwhy
  rw [← Except.error.inj hwhy]
  exact he

/-- Work that begins by reading the session is work with that session. -/
theorem alike_get_bind {f f' : Session → SessionM α} (h : Alike E (f s) (f' s) s) :
    Alike E (get >>= f) (get >>= f') s :=
  h

theorem Alike.bind {m m' : SessionM α} {f f' : α → SessionM β} (hdoes : Does src T Q m before s)
    (h : Alike E m m' s)
    (hf : ∀ a after s', Session.Grown src T before s after s' → Q after a →
      Alike E (f a) (f' a) s') :
    Alike E (m >>= f) (m' >>= f') s := by
  obtain ⟨after, hgrown, hQ⟩ := hdoes
  obtain ⟨hsame, hwhy⟩ := h
  unfold Alike
  rw [bind_apply, bind_apply, ← hsame]
  rcases hm : m s with ⟨why | a, s'⟩
  · rw [hm] at hwhy
    refine ⟨rfl, ?_⟩
    rintro _ ⟨⟩
    exact hwhy why rfl
  · rw [hm] at hgrown hQ
    exact hf a after s' hgrown (hQ a rfl)

end SessionM

/-- The two functions come to the same for every cell that a sound session awaits while the cells in
progress satisfy `C`. -/
def EnsureAlike (src : Source) (T : Address → Prop) (C : List Address → Prop) (E : Error → Prop)
    (ensure ensure' : Address → SessionM String) : Prop :=
  ∀ c before s, s.Sound src before → s.Awaits src T c → C s.chain →
    SessionM.Alike E (ensure c) (ensure' c) s

theorem EnsureAlike.mono {src : Source} {T : Address → Prop} {C : List Address → Prop}
    {E E' : Error → Prop} {ensure ensure' : Address → SessionM String}
    (h : EnsureAlike src T C E ensure ensure') (hE : ∀ why, E why → E' why) :
    EnsureAlike src T C E' ensure ensure' := by
  intro c before s hsound hawaits hC
  obtain ⟨hsame, hwhy⟩ := h c before s hsound hawaits hC
  exact ⟨hsame, fun why herr => hE why (hwhy why herr)⟩

/-! ### Faults of single formulas -/

/-- Answered by `answer`, the reading asks for the references `asked` and then stops with the
fault. -/
inductive Formula.Reading.StopsAfter {ε α : Type} (answer : String → Except ε Expr) :
    List String → Fault → Reading α → Prop
  /-- The reading has stopped. -/
  | fault (why : Fault) : StopsAfter answer [] why (.fault why)
  /-- The reference is answered, and the reading goes on. -/
  | ask {reference : String} {next : Expr → Reading α} {e : Expr} {asked : List String}
    {why : Fault} (he : answer reference = .ok e) (h : StopsAfter answer asked why (next e)) :
    StopsAfter answer (reference :: asked) why (.ask reference next)

namespace Source

variable {src : Source}

/-- The cell and all cells that it leads to have a meaning. -/
def Translates (src : Source) (c : Address) : Prop :=
  ∀ d, Relation.ReflTransGen src.DependsOn c d → ∃ e, src.meaning d = .ok e

/-- The formula of the cell, which has no override, has the fault itself: its text has no tokens, or
all references that are asked for before the fault lead to cells that can be translated. -/
inductive OwnFault (src : Source) (c : Address) : Fault → Prop
  /-- The text has no tokens. -/
  | unsplit {formula : String} {why : ScanFault} (hover : src.overrideOf c = .ok none)
    (hformula : src.workbook.formula? c = some formula) (h : tokenize formula = .error why) :
    OwnFault src c (.unsplit why)
  /-- The tokens have no reading. -/
  | unread {ts : List Token} {asked : List String} {why : Fault} (hts : src.HasTokens c ts)
    (h : (parseFormula ts).StopsAfter (src.answer c.sheet) asked why)
    (hasked : ∀ ref ∈ asked, ∀ d, src.LeadsTo c.sheet ref d → src.Translates d) :
    OwnFault src c why

open SessionM

variable {T : Address → Prop} {C : List Address → Prop} {E : Error → Prop}
  {ensure ensure' : Address → SessionM String} {before : List Address} {s : Session}

/-- What is done in a sound session translates. -/
theorem translates_of_mem (h : s.Sound src before) {c : Address} (hc : c ∈ before) :
    src.Translates c :=
  fun _ hcd => h.compiled.meaning_of_mem (h.compiled.mem_of_reflTransGen hc hcd)

/-! ### References -/

section

variable (hens : Ensures src T ensure) (halike : EnsureAlike src T C E ensure ensure')
  (hres : ∀ why, E (.resolution why))

include hens halike hres

theorem alike_member (h : s.Sound src before) (hC : C s.chain) {c : Address}
    (hc : src.overrideOf c = .ok none → s.Awaits src T c) :
    Alike E (src.member ensure c) (src.member ensure' c) s := by
  unfold member
  cases hover : src.overrideOf c with
  | error why => exact alike_throw (hres why)
  | ok o =>
    cases o with
    | some o => exact alike_pure _
    | none =>
      have hawaits := hc hover
      refine (halike c before s h hawaits hC).bind (hens c before s h hawaits) ?_
      intro n after s' _ _
      exact alike_pure _

theorem alike_members (h : s.Sound src before) (hC : C s.chain) {cells : List Address}
    (hcells : ∀ c ∈ cells, src.overrideOf c = .ok none → s.Awaits src T c) :
    Alike E (cells.mapM (src.member ensure)) (cells.mapM (src.member ensure')) s := by
  induction cells generalizing before s with
  | nil =>
    rw [List.mapM_nil, List.mapM_nil]
    exact alike_pure _
  | cons c rest ih =>
    rw [List.mapM_cons, List.mapM_cons]
    have hc := hcells c List.mem_cons_self
    refine (alike_member hens halike hres h hC hc).bind (does_member hens h hc) ?_
    intro e after s' hgrown _
    -- the chain is as before, so the other members are still awaited
    have hrest : ∀ d ∈ rest, src.overrideOf d = .ok none → s'.Awaits src T d := fun d hd hover =>
      (hcells d (List.mem_cons_of_mem _ hd) hover).of_grown hgrown
    have hC' : C s'.chain := hgrown.chain ▸ hC
    refine (ih hgrown.sound hC' hrest).bind (does_members hens hgrown.sound hrest) ?_
    intro es later s'' _ _
    exact alike_pure _

theorem alike_operandWith (h : s.Sound src before) (hC : C s.chain) {ref : String}
    (href : ∀ c, src.LeadsTo (s.currentSheet src.layout) ref c → s.Awaits src T c) :
    Alike E (src.operandWith ensure ref) (src.operandWith ensure' ref) s := by
  unfold operandWith
  unfold LeadsTo at href
  refine alike_get_bind ?_
  rcases hnamed : src.workbook.resolve (s.currentSheet src.layout) ref with why | named
  · exact alike_throw (hres why)
  rcases named with a | cells
  · exact alike_member hens halike hres h hC fun hover =>
      href a ⟨_, hnamed, List.mem_singleton.mpr rfl, hover⟩
  · have hcells : ∀ c ∈ cells, src.overrideOf c = .ok none → s.Awaits src T c :=
      fun c hc hover => href c ⟨_, hnamed, hc, hover⟩
    refine (alike_members hens halike hres h hC hcells).bind (does_members hens h hcells) ?_
    intro es after s' _ _
    exact alike_pure _

/-! ### Formulas -/

theorem alike_run (h : s.Sound src before) (hC : C s.chain) {α : Type} {r : Reading α}
    {refs : List String} {Q : List String → α → Prop} (hr : r.Consumes (fun _ => True) Q refs)
    {sheet : String} (hsheet : s.currentSheet src.layout = sheet)
    (hrefs : ∀ ref ∈ refs, ∀ c, src.LeadsTo sheet ref c → s.Awaits src T c)
    (hfault : ∀ asked why, r.StopsAfter (src.answer sheet) asked why →
      (∀ ref ∈ asked, ∀ c, src.LeadsTo sheet ref c → src.Translates c) →
        E (.formula none why)) :
    Alike E (r.run (src.operandWith ensure) fun why => throw (.formula none why))
      (r.run (src.operandWith ensure') fun why => throw (.formula none why)) s := by
  induction r generalizing refs before s with
  | done a => exact alike_pure a
  | fault why => exact alike_throw (hfault [] why (.fault why) (by simp))
  | ask ref next ih =>
    obtain ⟨rest, rfl, hnext⟩ := hr
    have href := hrefs ref List.mem_cons_self
    rw [← hsheet] at href
    rw [Reading.run, Reading.run]
    refine (alike_operandWith hens halike hres h hC href).bind (does_operandWith hens h href) ?_
    rintro e after s' hgrown ⟨he, hmem⟩
    rw [hsheet] at he hmem
    -- answering may have led far away, but the sheet and the chain are as before
    have hrest : ∀ ref' ∈ rest, ∀ c, src.LeadsTo sheet ref' c → s'.Awaits src T c :=
      fun ref' href' c hc => (hrefs ref' (List.mem_cons_of_mem _ href') c hc).of_grown hgrown
    have hsheet' : s'.currentSheet src.layout = sheet := by rw [hgrown.currentSheet, hsheet]
    refine ih e hgrown.sound (hgrown.chain ▸ hC) (hnext e trivial) hsheet' hrest ?_
    -- a fault further on comes after this reference, whose cells are done
    intro asked why hstops hasked
    refine hfault (ref :: asked) why (.ask he hstops) ?_
    refine List.forall_mem_cons.mpr ⟨fun c hc => ?_, hasked⟩
    exact translates_of_mem hgrown.sound (hmem c hc)

theorem alike_compileOnSheet (h : s.Sound src before) (hC : C s.chain) {c : Address}
    {formula : String} (hover : src.overrideOf c = .ok none)
    (hformula : src.workbook.formula? c = some formula)
    (hrefs : ∀ ts, tokenize formula = .ok ts → ∀ ref ∈ references ts, ∀ d,
      src.LeadsTo c.sheet ref d → s.Awaits src T d)
    (hfault : ∀ why, src.OwnFault c why → E (.formula none why))
    {E' : Error → Prop} (hin : ∀ e, E e → E' (e.inCell c)) :
    Alike E' (compileOnSheet (src.operandWith ensure) c formula)
      (compileOnSheet (src.operandWith ensure') c formula) s := by
  have hinside : Alike E (compileFormula (src.operandWith ensure) formula)
      (compileFormula (src.operandWith ensure') formula)
      { s with scope := c.sheet :: s.scope } := by
    unfold compileFormula
    cases htokens : tokenize formula with
    | error why => exact alike_throw (hfault _ (.unsplit hover hformula htokens))
    | ok ts =>
      refine alike_run hens halike hres (h.withScope (c.sheet :: s.scope)) hC
        (parseFormula_consumes Expr.Compositional.trivial ts) rfl (hrefs ts htokens) ?_
      intro asked why hstops hasked
      exact hfault why (.unread ⟨hover, formula, hformula, htokens⟩ hstops hasked)
  obtain ⟨hsame, hwhy⟩ := hinside
  unfold Alike compileOnSheet
  rw [← hsame]
  refine ⟨rfl, ?_⟩
  rcases hm : compileFormula (src.operandWith ensure) formula
    { s with scope := c.sheet :: s.scope } with ⟨why | e, s'⟩
  · rw [hm] at hwhy
    rintro _ ⟨⟩
    exact hin why (hwhy why rfl)
  · rintro _ ⟨⟩

/-- **Agreement about cells passes to the expression of the innermost cell in progress.**  An error
of its formula gets the cell. -/
theorem alike_exprOf {c : Address} (hfault : ∀ why, src.OwnFault c why → E (.formula none why))
    (hT : ∀ a b, T a → src.DependsOn a b → T b) (h : s.Sound src before) {outer : List Address}
    (hchain : s.chain = c :: outer) (hc : T c)
    (hC : src.overrideOf c = .ok none → (src.workbook.formula? c).isSome → C (c :: outer))
    {E' : Error → Prop} (hres' : ∀ why, E' (.resolution why))
    (hin : src.overrideOf c = .ok none → (src.workbook.formula? c).isSome →
      ∀ e, E e → E' (e.inCell c)) :
    Alike E' (src.exprOf (src.operandWith ensure) c) (src.exprOf (src.operandWith ensure') c)
      s := by
  unfold exprOf
  cases hover : src.overrideOf c with
  | error why => exact alike_throw (hres' why)
  | ok o =>
    cases o with
    | some o => exact alike_pure _
    | none =>
      cases hformula : src.workbook.formula? c with
      | none => exact alike_pure _
      | some formula =>
        have hsome : (src.workbook.formula? c).isSome := by rw [hformula, Option.isSome_some]
        exact alike_compileOnSheet hens halike hres h (hchain ▸ hC hover hsome) hover hformula
          (awaits_of_references hT hchain hc hover hformula) hfault (hin hover hsome)

end

/-! ### Cells -/

/-- One call for a cell, with its expression given by `translate`: a known cell is answered from
memory, and a new one is begun, translated, and finished or given up. -/
def visit (src : Source) (translate : Address → SessionM Expr) (cell : Address) :
    SessionM String := fun s =>
  match s.visits[cell]? with
  | some (.done name) => (.ok name, s)
  | some .inProgress => (.error (.cycle (s.circle cell)), s)
  | none =>
    match s.rival? cell with
    | some owner => (.error (.breach (.nameClash cell owner)), s)
    | none =>
      match translate cell (s.enter cell (src.workbook.kind cell)) with
      | (.ok e, s') => (.ok cell.variableName, s'.finish cell e)
      | (.error why, s') => (.error why, s'.abandon cell)

/-- The recursion through the cells, one call at a time. -/
theorem ensureWithin_succ (depth : Nat) :
    src.ensureWithin (depth + 1) =
      src.visit (src.exprOf (src.operandWith (src.ensureWithin depth))) :=
  rfl

theorem alike_visit {translate translate' : Address → SessionM Expr} {c : Address}
    (hcycle : s.visits[c]? = some .inProgress → E (.cycle (s.circle c)))
    (hclash : ∀ owner, s.rival? c = some owner → E (.breach (.nameClash c owner)))
    (hnew : s.visits[c]? = none → s.rival? c = none →
      Alike E (translate c) (translate' c) (s.enter c (src.workbook.kind c))) :
    Alike E (src.visit translate c) (src.visit translate' c) s := by
  unfold Alike visit
  rcases hvisit : s.visits[c]? with _ | _ | name
  · rcases hrival : s.rival? c with _ | owner
    · -- a new cell: the two translations end in the same way
      obtain ⟨hsame, hwhy⟩ := hnew hvisit hrival
      simp only [← hsame]
      refine ⟨trivial, ?_⟩
      rcases htranslate : translate c (s.enter c (src.workbook.kind c)) with ⟨why | e, s'⟩
      · rw [htranslate] at hwhy
        rintro _ ⟨⟩
        exact hwhy why rfl
      · rintro _ ⟨⟩
    · refine ⟨rfl, ?_⟩
      rintro _ ⟨⟩
      exact hclash owner hrival
  · refine ⟨rfl, ?_⟩
    rintro _ ⟨⟩
    exact hcycle hvisit
  · refine ⟨rfl, ?_⟩
    rintro _ ⟨⟩

end Source

end ReportCompiler
