import ReportCompiler.Proofs.Session.Walk

/-!
# The course of a session

Whatever a session is asked for, its walk is made of the same few steps: a reference is resolved, a
cell is answered from memory or begun and finished, the sheet of a formula is put into scope and
taken out again.  A relation between sessions that holds over each of these steps holds over every
walk that succeeds, and a condition on errors that holds where they arise holds of every walk that
fails.

## Main definitions

* `SessionM.Keeps R E` - work that leads to a session related by `R`, or fails with `E`.
* `Source.Course src R E` - what is asked of the single steps.

## Main results

* `keeps_ensureWithin` - **what holds of the steps holds of every walk.**
* `keeps_ensure`, `keeps_ensureAll` - the same for requests.
-/

namespace ReportCompiler

open Formula

namespace SessionM

variable {R : Session → Session → Prop} {E : Error → Prop} {α β : Type}

/-- From every session, the work succeeds with a session related to it by `R`, or it fails with an
error that satisfies `E`. -/
def Keeps (R : Session → Session → Prop) (E : Error → Prop) (m : SessionM α) : Prop :=
  ∀ s, match m s with
    | (.ok _, s') => R s s'
    | (.error why, _) => E why

theorem Keeps.of_ok {m : SessionM α} (h : Keeps R E m) {s s' : Session} {a : α}
    (hm : m s = (.ok a, s')) : R s s' := by
  have hs := h s
  rwa [hm] at hs

theorem Keeps.of_error {m : SessionM α} (h : Keeps R E m) {s s' : Session} {why : Error}
    (hm : m s = (.error why, s')) : E why := by
  have hs := h s
  rwa [hm] at hs

theorem keeps_throw {why : Error} (h : E why) : Keeps R E (throw why : SessionM α) :=
  fun _ => h

end SessionM

/-- What is asked of the single steps of a walk: relations between sessions go over them, and errors
arise with `E`. -/
structure Source.Course (src : Source) (R : Session → Session → Prop) (E : Error → Prop) : Prop where
  /-- Nothing need happen. -/
  refl (s : Session) : R s s
  /-- Steps follow each other. -/
  trans {s s' s'' : Session} : R s s' → R s' s'' → R s s''
  /-- The sheets in scope do not matter. -/
  scope {s s' : Session} (scope scope' : List String) :
    R { s with scope } s' → R s { s' with scope := scope' }
  /-- A cell that is not known is begun, and in the end finished. -/
  visit {s s' : Session} {c : Address} (e : Expr) (hnew : s.visits[c]? = none) :
    R (s.enter c (src.workbook.kind c)) s' → R s (s'.finish c e)
  /-- A reference names nothing. -/
  reference {sheet reference : String} {why : ReferenceError} :
    src.workbook.resolve sheet reference = .error why → E (.resolution why)
  /-- A cell has no override and should have one. -/
  override {c : Address} {why : ReferenceError} :
    src.overrideOf c = .error why → E (.resolution why)
  /-- A sheet is not in the workbook. -/
  canonical {c : Address} {why : ReferenceError} :
    src.canonical c = .error why → E (.resolution why)
  /-- A formula has a fault. -/
  formula (why : Fault) : E (.formula none why)
  /-- The cell of a formula is put into an error. -/
  inCell {why : Error} (c : Address) : E why → E (why.inCell c)
  /-- Cells depend on each other in a circle. -/
  cycle (cells : List Address) : E (.cycle cells)
  /-- A promise is broken. -/
  breach (why : Breach) : E (.breach why)

namespace Source

open SessionM

variable {src : Source} {R : Session → Session → Prop} {E : Error → Prop} {α β : Type}
  {ensure : Address → SessionM String}

section

variable (h : src.Course R E)

include h

theorem keeps_pure (a : α) : Keeps R E (pure a) :=
  h.refl

theorem keeps_get : Keeps R E (get : SessionM Session) :=
  h.refl

theorem keeps_bind {m : SessionM α} {f : α → SessionM β} (hm : Keeps R E m)
    (hf : ∀ a, Keeps R E (f a)) : Keeps R E (m >>= f) := by
  intro s
  rw [bind_apply]
  rcases hrun : m s with ⟨why | a, s'⟩
  · exact hm.of_error hrun
  · have hleft := hm.of_ok hrun
    dsimp only
    rcases hrun' : f a s' with ⟨why | b, s''⟩
    · exact (hf a).of_error hrun'
    · exact h.trans hleft ((hf a).of_ok hrun')

theorem keeps_mapM {f : α → SessionM β} {xs : List α} (hf : ∀ x ∈ xs, Keeps R E (f x)) :
    Keeps R E (xs.mapM f) := by
  induction xs with
  | nil =>
    rw [List.mapM_nil]
    exact keeps_pure h []
  | cons x rest ih =>
    obtain ⟨hx, hrest⟩ := List.forall_mem_cons.mp hf
    rw [List.mapM_cons]
    exact keeps_bind h hx fun y => keeps_bind h (ih hrest) fun ys => keeps_pure h (y :: ys)

/-! ### References and formulas -/

theorem keeps_member (hens : ∀ c, Keeps R E (ensure c)) (c : Address) :
    Keeps R E (src.member ensure c) := by
  unfold member
  cases hover : src.overrideOf c with
  | error why => exact keeps_throw (h.override hover)
  | ok o =>
    cases o with
    | some o => exact keeps_pure h _
    | none =>
      refine keeps_bind h (hens c) ?_
      intro n
      exact keeps_pure h (Expr.var n)

theorem keeps_operandWith (hens : ∀ c, Keeps R E (ensure c)) (reference : String) :
    Keeps R E (src.operandWith ensure reference) := by
  unfold operandWith
  refine keeps_bind h (keeps_get h) ?_
  intro s
  cases hnamed : src.workbook.resolve (s.currentSheet src.layout) reference with
  | error why => exact keeps_throw (h.reference hnamed)
  | ok named =>
    cases named with
    | cell a => exact keeps_member h hens a
    | range cells =>
      have hmembers : Keeps R E (cells.mapM (src.member ensure)) :=
        keeps_mapM h fun c _ => keeps_member h hens c
      refine keeps_bind h hmembers ?_
      intro es
      exact keeps_pure h (Expr.list es)

theorem keeps_run (hens : ∀ c, Keeps R E (ensure c)) (r : Reading α) :
    Keeps R E (r.run (src.operandWith ensure) fun why => throw (.formula none why)) := by
  induction r with
  | done a => exact keeps_pure h a
  | fault why => exact keeps_throw (h.formula why)
  | ask reference next ih =>
    rw [Reading.run]
    refine keeps_bind h ?_ ?_
    · exact keeps_operandWith h hens reference
    · exact ih

theorem keeps_compileOnSheet (hens : ∀ c, Keeps R E (ensure c)) (c : Address) (formula : String) :
    Keeps R E (compileOnSheet (src.operandWith ensure) c formula) := by
  have hformula : Keeps R E (compileFormula (src.operandWith ensure) formula) := by
    unfold compileFormula
    cases tokenize formula with
    | error why => exact keeps_throw (h.formula _)
    | ok ts => exact keeps_run h hens (parseFormula ts)
  intro s
  unfold compileOnSheet
  rcases hrun : compileFormula (src.operandWith ensure) formula
    { s with scope := c.sheet :: s.scope } with ⟨why | e, s'⟩
  · exact h.inCell c (hformula.of_error hrun)
  · exact h.scope _ _ (hformula.of_ok hrun)

theorem keeps_exprOf (hens : ∀ c, Keeps R E (ensure c)) (c : Address) :
    Keeps R E (src.exprOf (src.operandWith ensure) c) := by
  unfold exprOf
  cases hover : src.overrideOf c with
  | error why => exact keeps_throw (h.override hover)
  | ok o =>
    cases o with
    | some o => exact keeps_pure h _
    | none =>
      cases src.workbook.formula? c with
      | none => exact keeps_pure h _
      | some formula => exact keeps_compileOnSheet h hens c formula

/-! ### Cells -/

/-- **What holds of the steps holds of every walk.** -/
theorem keeps_ensureWithin (depth : Nat) (c : Address) : Keeps R E (src.ensureWithin depth c) := by
  induction depth generalizing c with
  | zero => exact keeps_throw (h.breach (.tooDeep c))
  | succ depth ih =>
    intro s
    rcases hvisit : s.visits[c]? with _ | _ | name
    · rcases hrival : s.rival? c with _ | owner
      · -- the cell is new: it is begun, and its formula is followed with less depth left
        have hexpr := keeps_exprOf h ih c
        rcases hrun : src.exprOf (src.operandWith (src.ensureWithin depth)) c
          (s.enter c (src.workbook.kind c)) with ⟨why | e, s'⟩
        · rw [ensureWithin_abandon hvisit hrival hrun]
          exact hexpr.of_error hrun
        · rw [ensureWithin_finish hvisit hrival hrun]
          exact h.visit e hvisit (hexpr.of_ok hrun)
      · rw [ensureWithin_rival hvisit hrival]
        exact h.breach (.nameClash c owner)
    · rw [ensureWithin_inProgress hvisit]
      exact h.cycle (s.circle c)
    · rw [ensureWithin_done hvisit]
      exact h.refl s

/-- A request for a cell. -/
theorem keeps_ensure (a : Address) : Keeps R E (src.ensure a) := by
  intro s
  cases hcanon : src.canonical a with
  | error why =>
    rw [ensure_error hcanon]
    exact h.canonical hcanon
  | ok c =>
    have hwalk := keeps_ensureWithin h src.depthBound c
    rcases hrun : src.ensureWithin src.depthBound c s with ⟨result, s'⟩
    have heq := ensure_ok (s := s) hcanon
    simp only [hrun] at heq
    split at heq
    · rw [heq]
      exact h.breach _
    · rw [heq]
      cases result with
      | error why => exact hwalk.of_error hrun
      | ok name => exact hwalk.of_ok hrun

/-- Requests for several cells. -/
theorem keeps_ensureAll (asked : List Address) : Keeps R E (asked.mapM src.ensure) :=
  keeps_mapM h fun a _ => keeps_ensure h a

end

end Source

end ReportCompiler
