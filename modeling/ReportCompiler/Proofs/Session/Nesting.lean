import ReportCompiler.Proofs.Session.Trouble

/-!
# How deeply cells are compiled inside each other

The walk of a session goes from a cell to the cells of its references, whose formulas may refer to
any of very many others, and marks of progress are taken back when something fails.  It ends all the
same: the cells in progress are different, and all but the innermost have a formula.

To say so about every moment of the walk, it is put under a watch.  The watched walk looks at the
cells in progress whenever a new one has been begun, which is when they are most, and it gives up
when they are not as they should be, or when a given depth is used up.  It never gives up.

## Main definitions

* `Source.Orderly` - the cells in progress are as they should be.
* `Source.watched` - the walk under a watch.

## Main results

* `watched_ensureWithin` - **the watch never stops the walk**, from any sound session.
* `nesting_bounded` - so cells are compiled inside each other at most as deeply as there are
  formulas, and once more.
-/

namespace ReportCompiler

open Formula

namespace Source

open SessionM

/-- The cells in progress, the innermost first, are different from each other, all but the innermost
have a formula and no override, and there is at most one more of them than formulas. -/
def Orderly (src : Source) (chain : List Address) : Prop :=
  chain.Nodup ∧ (∀ c ∈ chain.tail, src.isFormulaCell c) ∧
    chain.length ≤ src.workbook.formulaCount + 1

instance (src : Source) : DecidablePred src.Orderly := fun chain =>
  inferInstanceAs (Decidable (chain.Nodup ∧ (∀ c ∈ chain.tail, src.isFormulaCell c) ∧
    chain.length ≤ src.workbook.formulaCount + 1))

/-- The recursion through the cells under a watch.  It gives up with the error `stop` when cells are
compiled inside each other more than `depth` times, and when the cells in progress are not orderly
after one of them has been begun. -/
def watched (src : Source) (stop : Error) : (depth : Nat) → Address → SessionM String
  | 0 => fun _ => throw stop
  | depth + 1 => src.visit fun c s =>
    if src.Orderly s.chain then src.exprOf (src.operandWith (src.watched stop depth)) c s
    else (throw stop : SessionM Expr) s

variable {src : Source} {T : Address → Prop}

/-- A new cell finds the cells in progress orderly. -/
theorem orderly_enter {before : List Address} {s : Session} {c : Address}
    (hentered : (s.enter c (src.workbook.kind c)).Sound src before)
    (hlength : s.chain.length ≤ src.workbook.formulaCount) :
    src.Orderly (s.enter c (src.workbook.kind c)).chain := by
  refine ⟨hentered.nodup, hentered.isFormulaCell_of_mem_tail, ?_⟩
  simp only [Session.enter, List.length_cons]
  omega

/-- **The watch never stops the walk**: with depths that allow for all formulas, the watched and the
plain walk come to the same. -/
theorem watched_ensureWithin (hT : ∀ a b, T a → src.DependsOn a b → T b)
    (htitle : ∀ d, T d → src.workbook.HasTitle d.sheet) (stop : Error) (depth depth' : Nat) :
    EnsureAlike src T (fun chain => src.Allows T depth chain ∧ src.Allows T depth' chain)
      (fun _ => True) (src.ensureWithin depth) (src.watched stop depth') := by
  induction depth generalizing depth' with
  | zero =>
    intro c before s h hawaits hallows
    exact absurd hallows.1 (not_allows_zero htitle h hawaits)
  | succ depth ih =>
    intro c before s h hawaits hallows
    cases depth' with
    | zero => exact absurd hallows.2 (not_allows_zero htitle h hawaits)
    | succ depth' =>
      rw [ensureWithin_succ, watched]
      refine alike_visit (fun _ => trivial) (fun _ _ => trivial) ?_
      intro hvisit hrival
      have hentered := h.enter (src.workbook.kind c) hvisit hrival hawaits.2
      have hlength := h.length_chain_le hawaits fun d hd => htitle d (hallows.1.1 d hd)
      -- the watch finds everything in order, and lets the walk go on
      have hexpr : Alike (fun _ => True) (src.exprOf (src.operandWith (src.ensureWithin depth)) c)
          (src.exprOf (src.operandWith (src.watched stop depth')) c)
          (s.enter c (src.workbook.kind c)) :=
        alike_exprOf (ensures_ensureWithin hT depth) (ih depth') (fun _ => trivial)
          (fun _ _ => trivial) hT hentered rfl hawaits.1
          (fun _ _ => ⟨hallows.1.cons hawaits.1, hallows.2.cons hawaits.1⟩) (fun _ => trivial)
          (fun _ _ _ _ => trivial)
      exact ⟨hexpr.1.trans (if_pos (orderly_enter hentered hlength)).symm, hexpr.2⟩

end Source

/-- **Cells are compiled inside each other at most as deeply as the workbook has formulas, and once
more.**  After every history of requests, a request for a cell on no sheet of the workbook is
refused at once.  For every other cell the walk comes to the same as under a watch that gives up,
with an error of any kind, when more cells are compiled inside each other than this, or when the
cells in progress are not different from each other, all but the innermost with a formula and
without override.  A watch that allows for more depth finds no more. -/
theorem nesting_bounded (src : Source) (history : List Session.Request) (stop : Error)
    (depth : Nat) (hdepth : src.workbook.formulaCount + 1 ≤ depth) (a : Address) :
    let s := src.after history
    (∃ why, src.canonical a = .error why ∧ src.ensure a s = (.error (.resolution why), s)) ∨
      ∃ c, src.canonical a = .ok c ∧ src.ensure a s = src.watched stop depth c s := by
  intro s
  obtain ⟨before, hsound, hchain, hscope, -⟩ := src.exists_sound_after history
  rcases hcanon : src.canonical a with why | c
  · exact Or.inl ⟨why, rfl, Source.ensure_error hcanon⟩
  · refine Or.inr ⟨c, rfl, ?_⟩
    have hawaits : s.Awaits src (fun c => src.workbook.HasTitle c.sheet) c :=
      Source.awaits_of_chain hchain (Source.hasTitle_of_canonical hcanon)
    have hallows : src.Allows (fun c => src.workbook.HasTitle c.sheet) depth s.chain := by
      rw [hchain]
      refine ⟨by simp, ?_⟩
      rw [List.length_nil]
      omega
    rw [Source.ensure_eq_ensureWithin hsound hchain hscope hcanon]
    exact (Source.watched_ensureWithin (fun _ _ _ hab => hab.hasTitle) (fun _ hd => hd) stop
      src.depthBound depth c before s hsound hawaits
      ⟨Source.allows_depthBound hchain, hallows⟩).1

/-- Two cells of a report that refer to each other, and a third that refers to both. -/
def mutualPair : Source where
  workbook := { sheets := [
    (((Sheet.new "report").setFormula ⟨0, 0⟩ "=B1").setFormula ⟨0, 1⟩ "=A1").setFormula
      ⟨0, 2⟩ "=SUM(A1:B1)"] }
  layout := {}

/-- Four levels are enough for three formulas, also when the walk meets a circle at the last. -/
theorem nesting_bounded_mutualPair :
    mutualPair.workbook.formulaCount + 1 ≤ 4 ∧
      mutualPair.ensure ⟨"Report", 0, 2⟩ (mutualPair.after []) =
        mutualPair.watched (.layout .unreadable) 4 ⟨"report", 0, 2⟩ (mutualPair.after []) := by
  have hdepth : mutualPair.workbook.formulaCount + 1 ≤ 4 := by decide
  have hcanon : mutualPair.canonical ⟨"Report", 0, 2⟩ = .ok ⟨"report", 0, 2⟩ := by decide
  refine ⟨hdepth, ?_⟩
  rcases nesting_bounded mutualPair [] (.layout .unreadable) 4 hdepth ⟨"Report", 0, 2⟩ with
    ⟨why, hwhy, -⟩ | ⟨c, hc, hwatched⟩
  · rw [hcanon] at hwhy
    cases hwhy
  · obtain rfl := Except.ok.inj (hcanon.symm.trans hc)
    exact hwatched

end ReportCompiler
