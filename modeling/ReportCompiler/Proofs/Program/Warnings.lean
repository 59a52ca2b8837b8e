import ReportCompiler.Program.Assemble
import ReportCompiler.Proofs.Program.Requests
import ReportCompiler.Proofs.Session.Course
import ReportCompiler.Proofs.Session.Exactness
import ReportCompiler.Proofs.Workbook.Frame
import ReportCompiler.Proofs.Workbook.Merges

/-!
# Warnings about covered cells

A cell that a merged region covers shows nothing, and whoever refers to it may have meant another
one.  A session warns when it begins with such a cell.  It begins with every cell once, however often
the cell is referred to and whether the layout or a formula asks for it, and it does not begin with a
cell whose override stands for it in a formula.

## Main definitions

* `Workbook.Covers wb c` - the cell lies in a merged region and is not its first one.
* `Session.Warned wb s` - the session has warned of the covered cells that it knows.
* `Session.Warns wb s s'` - from one session to the other no cell is forgotten, and warnings that are
  in order stay so.

## Main results

* `course_warns` - every step of a walk warns as it should.
* `warnings_exact` - **the warnings of a program are the covered cells with an instruction**, each
  once.
-/

namespace ReportCompiler

namespace Workbook

/-- The cell lies in a merged region and is not the first one of it. -/
def Covers (wb : Workbook) (c : Address) : Prop :=
  ∃ s, wb.sheet? c.sheet = some s ∧ ∃ r ∈ s.merges, c.position ∈ r.cells ∧ c.position ≠ r.first

theorem kind_eq_merged_iff {wb : Workbook} {c : Address} : wb.kind c = .merged ↔ wb.Covers c := by
  unfold kind Covers
  cases wb.sheet? c.sheet with
  | none => simp
  | some s =>
    simp only [Option.some.injEq, exists_eq_left']
    rw [Sheet.kind_eq_merged_iff, Sheet.isHidden_iff_exists]

end Workbook

namespace Session

variable {wb : Workbook} {s s' : Session} {c d : Address}

/-! ### Known cells -/

/-- The session has begun with the cell, and perhaps finished it. -/
def Knows (s : Session) (c : Address) : Prop :=
  s.visits[c]? ≠ none

theorem knows_of_insert {visit : Visit} (h : s'.visits = s.visits.insert c visit) :
    s'.Knows d ↔ c = d ∨ s.Knows d := by
  rw [Knows, Knows, h, Std.TreeMap.getElem?_insert]
  by_cases hd : c = d
  · simp [hd]
  · simp [hd, Std.LawfulEqCmp.compare_eq_iff_eq]

theorem knows_enter {kind : CellKind} : (s.enter c kind).Knows d ↔ c = d ∨ s.Knows d :=
  knows_of_insert rfl

theorem knows_finish {e : Formula.Expr} : (s.finish c e).Knows d ↔ c = d ∨ s.Knows d :=
  knows_of_insert rfl

/-- When no cell is in progress, the cells that are known are those that are done. -/
theorem Sound.knows_iff {src : Source} {cells : List Address} (h : s.Sound src cells)
    (hchain : s.chain = []) : s.Knows c ↔ c ∈ cells := by
  rw [Knows, h.visits c, hchain, if_neg List.not_mem_nil]
  by_cases hc : c ∈ cells <;> simp [hc]

/-! ### Warnings -/

/-- The session has warned of the covered cells that it knows, of each once, and of nothing else. -/
structure Warned (wb : Workbook) (s : Session) : Prop where
  /-- No warning is given twice. -/
  nodup : s.warnings.toList.Nodup
  /-- The warnings are about the covered cells. -/
  mem_iff (c : Address) : .mergedCell c ∈ s.warnings.toList ↔ s.Knows c ∧ wb.Covers c

theorem warned_fresh (wb : Workbook) : Warned wb {} :=
  ⟨List.nodup_nil, fun _ => iff_of_false List.not_mem_nil fun h => h.1 rfl⟩

/-- Beginning with a cell that is not known. -/
theorem Warned.enter (h : Warned wb s) (hnew : s.visits[c]? = none) :
    Warned wb (s.enter c (wb.kind c)) := by
  have hknown : ¬ s.Knows c := fun hc => hc hnew
  by_cases hcovers : wb.Covers c
  · -- the cell is covered, and there is no warning about it yet
    have hwarnings : (s.enter c (wb.kind c)).warnings.toList =
        s.warnings.toList ++ [.mergedCell c] := by
      rw [Session.enter, if_pos (Workbook.kind_eq_merged_iff.mpr hcovers), Array.toList_push]
    refine ⟨?_, fun d => ?_⟩
    · rw [hwarnings]
      refine List.nodup_append'.mpr ⟨h.nodup, List.nodup_singleton _, ?_⟩
      rw [List.disjoint_singleton, h.mem_iff]
      exact fun hc => hknown hc.1
    · rw [hwarnings, List.mem_append, List.mem_singleton, h.mem_iff, knows_enter,
        Warning.mergedCell.injEq, or_and_right, or_comm]
      refine or_congr_left ⟨?_, fun hd => hd.1.symm⟩
      rintro rfl
      exact ⟨rfl, hcovers⟩
  · have hwarnings : (s.enter c (wb.kind c)).warnings = s.warnings := by
      rw [Session.enter, if_neg fun hkind => hcovers (Workbook.kind_eq_merged_iff.mp hkind)]
    refine ⟨hwarnings ▸ h.nodup, fun d => ?_⟩
    rw [hwarnings, h.mem_iff, knows_enter, or_and_right]
    refine (or_iff_right ?_).symm
    rintro ⟨rfl, hd⟩
    exact hcovers hd

/-- Finishing a cell that is known. -/
theorem Warned.finish (h : Warned wb s) (hc : s.Knows c) (e : Formula.Expr) :
    Warned wb (s.finish c e) := by
  refine ⟨h.nodup, fun d => ?_⟩
  have hknows : (s.finish c e).Knows d ↔ s.Knows d := by
    rw [knows_finish]
    exact or_iff_right_of_imp fun hd => hd ▸ hc
  rw [hknows]
  exact h.mem_iff d

/-- Between the two sessions no cell is forgotten, and if the warnings are in order before, they are
so afterwards. -/
structure Warns (wb : Workbook) (s s' : Session) : Prop where
  /-- Cells that are known stay known. -/
  known (c : Address) : s.Knows c → s'.Knows c
  /-- The warnings stay in order. -/
  warned : Warned wb s → Warned wb s'

end Session

namespace Source

/-- **Every step of a walk warns as it should.** -/
theorem course_warns (src : Source) :
    src.Course (Session.Warns src.workbook) fun _ => True where
  refl s := ⟨fun c hc => hc, fun h => h⟩
  trans h h' := ⟨fun c hc => h'.known c (h.known c hc), fun hs => h'.warned (h.warned hs)⟩
  scope scope scope' h := by
    refine ⟨h.known, fun hs => ?_⟩
    have hs' := h.warned ⟨hs.nodup, hs.mem_iff⟩
    exact ⟨hs'.nodup, hs'.mem_iff⟩
  visit {s s' c} e hnew h := by
    have hc : s'.Knows c := h.known c (Session.knows_enter.mpr (.inl rfl))
    refine ⟨fun d hd => ?_, fun hs => (h.warned (hs.enter hnew)).finish hc e⟩
    exact Session.knows_finish.mpr (.inr (h.known d (Session.knows_enter.mpr (.inr hd))))
  reference _ := trivial
  override _ := trivial
  canonical _ := trivial
  formula _ := trivial
  inCell _ _ := trivial
  cycle _ := trivial
  breach _ := trivial

end Source

namespace Source

open SessionM

variable {src : Source}

/-- A cell with an override is reached only if it is asked for itself. -/
theorem mem_requests_of_reachable {c : Address} {o : Override}
    (h : src.Reachable (src.layout.requests src.workbook) c)
    (hover : src.overrideOf c = .ok (some o)) : c ∈ src.layout.requests src.workbook := by
  obtain ⟨a, ha, start, hstart, hpath⟩ := h
  rcases hpath.cases_tail with rfl | ⟨b, -, ts, -, ref, -, hleads⟩
  · rw [canonical_of_hasTitle (Layout.hasTitle_of_mem_requests ha)] at hstart
    exact Except.ok.inj hstart ▸ ha
  · -- a formula leads to cells without override only
    obtain ⟨named, -, -, hnone⟩ := hleads
    rw [hover] at hnone
    cases hnone

/-- **The warnings of a program are the covered cells with an instruction.**  The cells with an
instruction are those that the layout asks for and those that these lead to.  There is one warning
about each of them that a merged region covers, and no other.  A cell that only its override stands
for gives none. -/
theorem warnings_exact (src : Source) (name : String) {compiled : Compiled}
    (h : src.compile name = .ok compiled) :
    ∃ (cells : List Address) (instructions : List Instruction) (outputs : List Output),
      compiled.program = assemble instructions outputs (src.layout.programOptions name) ∧
      compiled.instructionCount = instructions.length ∧
      cells.map src.instruction = instructions.map .ok ∧ cells.Nodup ∧
      (∀ c, c ∈ cells ↔ src.Reachable (src.layout.requests src.workbook) c) ∧
      compiled.warnings.Nodup ∧
      (∀ w, w ∈ compiled.warnings ↔ ∃ c ∈ cells, src.workbook.Covers c ∧ w = .mergedCell c) ∧
      ∀ c o, src.overrideOf c = .ok (some o) → c ∉ src.layout.requests src.workbook →
        .mergedCell c ∉ compiled.warnings := by
  unfold compile at h
  rcases hrun : src.outputs.run {} with ⟨why | outputs, s⟩
  · rw [hrun] at h
    cases h
  · rw [hrun] at h
    obtain rfl := Except.ok.inj h
    -- as far as the session goes, the outputs are the requests of the layout
    obtain ⟨names, hnames⟩ := (asks_outputs src).of_ok hrun
    obtain ⟨cells, hsound, hchain, hcells⟩ := exists_sound_of_ensure hnames
    have hwarns := (keeps_ensureAll src.course_warns _).of_ok hnames
    have hwarned := hwarns.warned (Session.warned_fresh _)
    have hmem : ∀ c, .mergedCell c ∈ s.warnings.toList ↔ c ∈ cells ∧ src.workbook.Covers c := by
      intro c
      rw [hwarned.mem_iff, hsound.knows_iff hchain]
    refine ⟨cells, s.instructions.toList, outputs, rfl, Array.length_toList.symm,
      hsound.compiled.map_instruction, hsound.compiled.nodup, hcells, hwarned.nodup, ?_, ?_⟩
    · rintro ⟨c⟩
      rw [hmem]
      constructor
      · rintro ⟨hc, hcovers⟩
        exact ⟨c, hc, hcovers, rfl⟩
      · rintro ⟨_, hc, hcovers, ⟨⟩⟩
        exact ⟨hc, hcovers⟩
    · intro c o hover hasked hwarning
      have hreach := (hcells c).mp ((hmem c).mp hwarning).1
      exact hasked (mem_requests_of_reachable hreach hover)

end Source

/-- A cell that refers twice to a covered cell of its own sheet, and to a covered constant of the data
sheet. -/
def coveredCells : Source where
  workbook := { sheets := [
    { (Sheet.new "report").setFormula ⟨0, 0⟩ "=B2+SUM(B1:B2)+data!A2" with
      merges := [⟨⟨0, 1⟩, ⟨1, 1⟩⟩] },
    { (Sheet.new "data").setValue ⟨1, 0⟩ (.boolean true) with merges := [⟨⟨0, 0⟩, ⟨1, 0⟩⟩] }] }
  layout := { constants := ["A2"], entries := [.single [] "A3" "A1"] }

/-- There is one warning, about the cell that has an instruction. -/
theorem Source.warnings_exact_coveredCells :
    ∃ compiled, coveredCells.compile "book" = .ok compiled ∧
      compiled.warnings = [.mergedCell ⟨"report", 1, 1⟩] ∧
      coveredCells.Reachable (coveredCells.layout.requests coveredCells.workbook)
        ⟨"report", 1, 1⟩ ∧
      coveredCells.workbook.Covers ⟨"report", 1, 1⟩ ∧
      coveredCells.workbook.Covers ⟨"data", 1, 0⟩ ∧
      .mergedCell ⟨"data", 1, 0⟩ ∉ compiled.warnings := by
  have hwarnings : (coveredCells.compile "book").map Compiled.warnings =
      .ok [.mergedCell ⟨"report", 1, 1⟩] := by decide +kernel
  have hconstant : coveredCells.overrideOf ⟨"data", 1, 0⟩ = .ok (some (.constant (.boolean true))) ∧
      ⟨"data", 1, 0⟩ ∉ coveredCells.layout.requests coveredCells.workbook ∧
      coveredCells.workbook.kind ⟨"data", 1, 0⟩ = .merged := by decide +kernel
  cases hcompiled : coveredCells.compile "book" with
  | error why =>
    rw [hcompiled] at hwarnings
    cases hwarnings
  | ok compiled =>
    rw [hcompiled] at hwarnings
    have honly : compiled.warnings = [.mergedCell ⟨"report", 1, 1⟩] := Except.ok.inj hwarnings
    obtain ⟨cells, -, -, -, -, -, -, hcells, -, hmem, hspared⟩ :=
      Source.warnings_exact coveredCells "book" hcompiled
    obtain ⟨c, hc, hcovers, ⟨⟩⟩ := (hmem (.mergedCell ⟨"report", 1, 1⟩)).mp (by simp [honly])
    exact ⟨compiled, rfl, honly, (hcells _).mp hc, hcovers,
      Workbook.kind_eq_merged_iff.mp hconstant.2.2, hspared _ _ hconstant.1 hconstant.2.1⟩

end ReportCompiler
