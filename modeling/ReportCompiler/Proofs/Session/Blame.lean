import ReportCompiler.Proofs.Session.Trouble

/-!
# Which cell is to blame

A request may fail because of a formula far away from the cell that was asked for.  The error then
passes through all the formulas on the way back, and each of them has the chance to put its own cell
into it.  The cell that the error names in the end is the one whose own formula has the fault.

## Main definitions

* `Source.Blames src T` - errors that name a cell with `T` whose own fault they are.

## Main results

* `OwnFault.meaning` - the own fault of a cell is what its formula comes to by itself.
* `blames_ensureWithin` - **on every way back the innermost cell stays in the error.**
* `ensure_blames` - the same for requests.
-/

namespace ReportCompiler

open Formula Relation

/-! ### The own fault of a cell -/

theorem Formula.Reading.StopsAfter.run {ε α : Type} {answer : String → Except ε Expr}
    {asked : List String} {why : Fault} {r : Reading α} (h : r.StopsAfter answer asked why)
    (raise : Fault → ε) : r.run answer (fun why => .error (raise why)) = .error (raise why) := by
  induction h with
  | fault why => rfl
  | ask he _ ih =>
    rw [Reading.run, he]
    exact ih

namespace Source

variable {src : Source}

theorem OwnFault.isFormulaCell {c : Address} {why : Fault} (h : src.OwnFault c why) :
    src.isFormulaCell c := by
  cases h with
  | unsplit hover hformula _ => exact isFormulaCell_of_formula hover (by simp [hformula])
  | unread hts _ _ =>
    obtain ⟨hover, formula, hformula, -⟩ := hts
    exact isFormulaCell_of_formula hover (by simp [hformula])

/-- The fault is what the formula comes to when its references are answered without a session. -/
theorem OwnFault.meaning {c : Address} {why : Fault} (h : src.OwnFault c why) :
    src.meaning c = .error (.formula (some c) why) := by
  cases h with
  | unsplit hover hformula htokens =>
    rw [Source.meaning, hover]
    simp only [hformula, htokens]
  | unread hts hstops _ =>
    rw [hts.meaning_eq]
    exact hstops.run (.formula (some c))

/-! ### The way back -/

/-- If the error is a fault of a formula, it names a cell with `T` whose own fault it is. -/
def Blames (src : Source) (T : Address → Prop) (why : Error) : Prop :=
  ∀ cell fault, why = .formula cell fault → ∃ c, cell = some c ∧ T c ∧ src.OwnFault c fault

theorem blames_resolution {T : Address → Prop} (why : ReferenceError) :
    src.Blames T (.resolution why) := by
  rintro _ _ ⟨⟩

theorem blames_own {T : Address → Prop} {c : Address} {fault : Fault} (hc : T c)
    (h : src.OwnFault c fault) : src.Blames T (.formula (some c) fault) := by
  rintro _ _ ⟨⟩
  exact ⟨c, rfl, hc, h⟩

/-- An error that names a cell keeps it on its way through the formulas of other cells. -/
theorem Blames.inCell {T : Address → Prop} {why : Error} (h : src.Blames T why) (c : Address) :
    src.Blames T (why.inCell c) := by
  cases why with
  | formula cell fault =>
    cases cell with
    | none =>
      obtain ⟨d, hd, -⟩ := h none fault rfl
      cases hd
    | some d => exact h
  | _ => exact h

open SessionM

/-- **On every way back the innermost cell stays in the error**: the walk from a cell fails with a
fault of a formula only if the fault is that of the named cell itself. -/
theorem blames_ensureWithin {T : Address → Prop} (hT : ∀ a b, T a → src.DependsOn a b → T b)
    (depth : Nat) :
    EnsureAlike src T (fun _ => True) (src.Blames T) (src.ensureWithin depth)
      (src.ensureWithin depth) := by
  induction depth with
  | zero => exact fun c before s _ _ _ => alike_throw fun _ _ => nofun
  | succ depth ih =>
    intro c before s h hawaits _
    rw [ensureWithin_succ]
    refine alike_visit (fun _ _ _ => nofun) (fun _ _ _ _ => nofun) ?_
    intro hvisit hrival
    have hentered := h.enter (src.workbook.kind c) hvisit hrival hawaits.2
    -- inside the formula its own faults have no cell yet
    have hinside : EnsureAlike src T (fun _ => True)
        (fun why => src.Blames T why ∨ ∃ fault, why = .formula none fault ∧ src.OwnFault c fault)
        (src.ensureWithin depth) (src.ensureWithin depth) := ih.mono fun _ => Or.inl
    refine alike_exprOf (ensures_ensureWithin hT depth) hinside
      (fun why => Or.inl (blames_resolution why)) (fun why hown => Or.inr ⟨why, rfl, hown⟩) hT
      hentered rfl hawaits.1 (fun _ _ => trivial) blames_resolution ?_
    rintro - - why (hcell | ⟨fault, rfl, hown⟩)
    · exact hcell.inCell c
    · exact blames_own hawaits.1 hown

end Source

/-! ### Requests -/

/-- **An error names the cell whose own formula has the fault.**  When a request for a cell fails
with a fault of a formula, after any history of requests, the error names a cell.  It is the
requested cell or one that it leads to, it has a formula and no override, and the fault is what its
formula comes to by itself: every reference that is asked for before the fault leads to cells that
translate without error. -/
theorem ensure_blames (src : Source) (history : List Session.Request) (a : Address)
    (cell : Option Address) (why : Fault)
    (h : (src.ensure a (src.after history)).1 = .error (.formula cell why)) :
    ∃ start c, src.canonical a = .ok start ∧ ReflTransGen src.DependsOn start c ∧
      cell = some c ∧ src.isFormulaCell c ∧ src.OwnFault c why ∧
      src.meaning c = .error (.formula (some c) why) ∧
      (Error.formula cell why).message = c.text ++ ": " ++ why.message := by
  obtain ⟨before, hsound, hchain, hscope, -⟩ := src.exists_sound_after history
  rcases hcanon : src.canonical a with reason | start
  · rw [Source.ensure_error hcanon] at h
    cases h
  · -- the walk leads only to cells that the requested one leads to
    rw [Source.ensure_eq_ensureWithin hsound hchain hscope hcanon] at h
    have hblames := Source.blames_ensureWithin (T := ReflTransGen src.DependsOn start)
      (fun _ _ ha hab => ha.tail hab) src.depthBound start before _ hsound
      (Source.awaits_of_chain hchain .refl) trivial
    obtain ⟨c, rfl, hc, hown⟩ := hblames.2 _ h cell why rfl
    exact ⟨start, c, rfl, hc, rfl, hown.isFormulaCell, hown, hown.meaning, rfl⟩

/-- A report whose formula has a fault, and refers before it to a range with a formula that has the
same fault. -/
def sameFaults : Source where
  workbook := { sheets := [
    (Sheet.new "report").setFormula ⟨0, 0⟩ "=SUM(Data!A1:B1)+FOO(1)",
    ((Sheet.new "data").setFormula ⟨0, 0⟩ "=C1").setFormula ⟨0, 1⟩ "=A1+FOO(A1)"] }
  layout := {}

/-- The cell of the range is named, also when it has failed before. -/
theorem ensure_blames_sameFaults :
    (sameFaults.ensure ⟨"Report", 0, 0⟩ (sameFaults.after [.cell ⟨"data", 0, 1⟩])).1 =
        .error (.formula (some ⟨"data", 0, 1⟩) (.unsupported (.function "FOO("))) ∧
      ReflTransGen sameFaults.DependsOn ⟨"report", 0, 0⟩ ⟨"data", 0, 1⟩ ∧
      sameFaults.OwnFault ⟨"data", 0, 1⟩ (.unsupported (.function "FOO(")) := by
  have hfails : (sameFaults.ensure ⟨"Report", 0, 0⟩ (sameFaults.after [.cell ⟨"data", 0, 1⟩])).1 =
      .error (.formula (some ⟨"data", 0, 1⟩) (.unsupported (.function "FOO("))) := by
    decide +kernel
  have hcanon : sameFaults.canonical ⟨"Report", 0, 0⟩ = .ok ⟨"report", 0, 0⟩ := by decide +kernel
  obtain ⟨start, c, hstart, hpath, hc, -, hown, -⟩ := ensure_blames sameFaults _ _ _ _ hfails
  obtain rfl := Except.ok.inj (hcanon.symm.trans hstart)
  obtain rfl := Option.some.inj hc
  exact ⟨hfails, hpath, hown⟩

end ReportCompiler
