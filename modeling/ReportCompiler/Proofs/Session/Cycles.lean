import ReportCompiler.Proofs.Session.Trouble

/-!
# Circles of dependence

A cell that can be compiled leads to no circle, and when a request ends with a circle, the circle is
one of the workbook: it is closed, its cells depend on each other one after the other, and the
requested cell leads to it.

## Main results

* `Source.Compiles.not_transGen` - no compiled cell depends on itself.
* `ensure_circle` - **requests find exactly what the dependences of the workbook say.**
-/

namespace ReportCompiler

open Relation

/-- A compiled cell does not depend on itself, not even through others: its dependences were
compiled before it. -/
theorem Source.Compiles.not_transGen {src : Source} {cells : List Address}
    {instructions : List Instruction} (h : src.Compiles cells instructions) {c : Address}
    (hc : c ∈ cells) : ¬ TransGen src.DependsOn c c := by
  induction h with
  | nil => simp at hc
  | @snoc cells instructions d e before fresh _ depends ih =>
    rcases List.mem_append.mp hc with hmem | hmem
    · exact ih hmem
    · obtain rfl := List.mem_singleton.mp hmem
      intro hcircle
      -- the first step leads to the cells before it, and nothing leads out of these
      obtain ⟨b, hstep, hback⟩ := TransGen.head'_iff.mp hcircle
      have hold : c ∈ cells := before.mem_of_reflTransGen (depends b hstep) hback
      rw [before.names] at fresh
      exact fresh (List.mem_map_of_mem hold)

/-- The cells that a cell on a sheet of the workbook leads to are on sheets of the workbook. -/
theorem Source.hasTitle_of_reflTransGen {src : Source} {c d : Address}
    (hc : src.workbook.HasTitle c.sheet) (hcd : ReflTransGen src.DependsOn c d) :
    src.workbook.HasTitle d.sheet := by
  induction hcd with
  | refl => exact hc
  | tail _ hstep _ => exact hstep.hasTitle

/-- **Requests find the circles of the workbook.**  After every history of requests: when a request
for a cell succeeds, the cell leads to no circle of dependences.  When it ends with a circle, the
circle has at least two places, its first and last cell are the same and the others different, each
cell depends on the next, and the requested cell leads to the first one.  The message shows the
texts of these cells. -/
theorem ensure_circle (src : Source) (history : List Session.Request) (a : Address) :
    (∀ name, (src.ensure a (src.after history)).1 = .ok name →
      ∃ c, src.canonical a = .ok c ∧
        ∀ d, ReflTransGen src.DependsOn c d → ¬ TransGen src.DependsOn d d) ∧
    ∀ cells, (src.ensure a (src.after history)).1 = .error (.cycle cells) →
      src.Circle cells ∧
        (∃ c first, src.canonical a = .ok c ∧ cells.head? = some first ∧
          ReflTransGen src.DependsOn c first) ∧
        (Error.cycle cells).message =
          "circular reference: " ++ String.intercalate " -> " (cells.map Address.text) := by
  obtain ⟨before, hsound, hchain, hscope, -⟩ := src.exists_sound_after history
  refine ⟨?_, ?_⟩
  · intro name hname
    obtain ⟨after, hgrown, hres⟩ := Source.does_ensure (T := fun _ => True)
      (fun _ _ _ _ => trivial) hsound hchain (a := a) fun _ _ => trivial
    obtain ⟨c, hcanon, -, hc⟩ := hres name hname
    refine ⟨c, hcanon, ?_⟩
    intro d hcd
    have hd := hgrown.sound.compiled.mem_of_reflTransGen hc hcd
    exact hgrown.sound.compiled.not_transGen hd
  · intro cells herr
    rcases hcanon : src.canonical a with reason | c
    · rw [Source.ensure_error hcanon] at herr
      cases herr
    · -- the walk leads only to cells that the requested one leads to
      have htitle := Source.hasTitle_of_canonical hcanon
      have htrouble := Source.trouble_of_ensure (T := ReflTransGen src.DependsOn c)
        (fun _ _ ha hab => ha.tail hab) (fun d hd => Source.hasTitle_of_reflTransGen htitle hd)
        hsound hchain hscope (a := a)
        (fun c' hc' => by
          obtain rfl := Except.ok.inj (hcanon.symm.trans hc')
          exact .refl) herr
      cases htrouble with
      | cycle hcircle hfirst =>
        obtain ⟨first, rest, rfl⟩ := List.exists_cons_of_length_pos
          (Nat.lt_of_lt_of_le Nat.zero_lt_two hcircle.two_le)
        exact ⟨hcircle, ⟨c, first, rfl, rfl, hfirst first rfl⟩, rfl⟩

/-- A cell of a report that leads into a circle through a range, and one that does not. -/
def rangeLoop : Source where
  workbook := { sheets := [
    (((Sheet.new "report").setFormula ⟨0, 0⟩ "=-A2").setFormula ⟨1, 0⟩ "=SUM(B1:B2)").setFormula
      ⟨1, 1⟩ "=REPORT!A2*2"] }
  layout := {}

/-- The first cell is refused for the circle of the other two, and the empty one is compiled. -/
theorem ensure_circle_rangeLoop :
    let circle : List Address := [⟨"report", 1, 0⟩, ⟨"report", 1, 1⟩, ⟨"report", 1, 0⟩]
    (rangeLoop.ensure ⟨"report", 0, 0⟩ {}).1 = .error (.cycle circle) ∧ rangeLoop.Circle circle ∧
      (rangeLoop.ensure ⟨"Report", 0, 1⟩ {}).1 = .ok "report_B1" ∧
        ¬ TransGen rangeLoop.DependsOn ⟨"report", 0, 1⟩ ⟨"report", 0, 1⟩ := by
  intro circle
  have hloop : (rangeLoop.ensure ⟨"report", 0, 0⟩ {}).1 = .error (.cycle circle) := by
    decide +kernel
  have hplain : (rangeLoop.ensure ⟨"Report", 0, 1⟩ {}).1 = .ok "report_B1" := by decide +kernel
  have hcanon : rangeLoop.canonical ⟨"Report", 0, 1⟩ = .ok ⟨"report", 0, 1⟩ := by decide +kernel
  obtain ⟨c, hc, hfree⟩ := (ensure_circle rangeLoop [] ⟨"Report", 0, 1⟩).1 _ hplain
  obtain rfl := Except.ok.inj (hcanon.symm.trans hc)
  exact ⟨hloop, ((ensure_circle rangeLoop [] _).2 _ hloop).1, hplain, hfree _ .refl⟩

end ReportCompiler
