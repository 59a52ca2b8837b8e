import Mathlib.Data.List.Nodup
import ReportCompiler.Package.Load
import ReportCompiler.Proofs.Workbook.Titles

/-!
# Sheets filled from grids

A sheet is delivered as a grid of values and a grid of formulas, and each of them begins somewhere
else.  Two loops write them into one map of cells: the first stops where a sheet ends, and the second
passes over what lies beyond.  Both write each position at most once.  So a sheet holds at every
position what the two grids have there, wherever they begin, and the numbers that the loops count
are those of the cells that they leave.

## Main definitions

* `Sheet.valueCount` - the number of cells with a value.
* `LoadingSheet.WritesOne` - a step of a loop changes the cell at one position only.
* `SheetLoaded` - a sheet holds what was delivered, and nothing else.

## Main results

* `Grid.mem_entries_iff`, `Grid.nodup_positions` - the entries of a grid, each of them once.
* `Grid.entriesWithin_eq_filter` - stopping at the limits leaves out the entries beyond them only.
* `LoadingSheet.WritesOne.cell?_foldl` - what a loop of writes to different positions leaves.
* `DeliveredSheet.sheetLoaded_of_load?` - **a loaded sheet holds what was delivered.**
* `SheetLoaded.valueCount_eq`, `SheetLoaded.formulaCount_eq` - the values and formulas of a loaded
  sheet are as many as the entries of the grids that are not passed over.
* `DeliveredSheet.counts_of_load?` - the numbers are those of its values and its formulas.
-/

namespace ReportCompiler

/-! ### The entries of a grid -/

namespace Grid

variable {α : Type} {g : Grid α} {p : Coordinate} {a : α}

theorem mem_rowEntries_iff {row col : Nat} {cells : List α} :
    (p, a) ∈ rowEntries row col cells ↔
      p.row = row ∧ col ≤ p.col ∧ cells[p.col - col]? = some a := by
  rw [rowEntries, List.mem_map]
  constructor
  · rintro ⟨⟨b, c⟩, hmem, heq⟩
    obtain ⟨rfl, rfl⟩ := Prod.mk.inj heq
    exact ⟨rfl, List.mk_mem_zipIdx_iff_le_and_getElem?_sub.mp hmem⟩
  · rintro ⟨rfl, hcell⟩
    exact ⟨(a, p.col), List.mk_mem_zipIdx_iff_le_and_getElem?_sub.mpr hcell, rfl⟩

theorem entries_eq (g : Grid α) : g.entries =
    (g.rows.zipIdx g.start.row).flatMap fun r => rowEntries r.2 g.start.col r.1 :=
  rfl

/-- The entries are those that are found at their positions. -/
theorem mem_entries_iff : (p, a) ∈ g.entries ↔ g.at? p = some a := by
  rw [entries_eq, List.mem_flatMap, at?]
  constructor
  · rintro ⟨⟨cells, row⟩, hrow, hcell⟩
    obtain ⟨rfl, hcol, hcell⟩ := mem_rowEntries_iff.mp hcell
    obtain ⟨hle, hrow⟩ := List.mk_mem_zipIdx_iff_le_and_getElem?_sub.mp hrow
    rw [if_pos ⟨hle, hcol⟩, hrow, Option.bind_some, hcell]
  · intro h
    split at h
    case isTrue hle =>
      obtain ⟨cells, hrow, hcell⟩ := Option.bind_eq_some_iff.mp h
      refine ⟨(cells, p.row), ?_, mem_rowEntries_iff.mpr ⟨rfl, hle.2, hcell⟩⟩
      exact List.mk_mem_zipIdx_iff_le_and_getElem?_sub.mpr ⟨hle.1, hrow⟩
    case isFalse => cases h

/-- Numbers that a list is counted with are in order. -/
theorem pairwise_zipIdx {β : Type} (l : List β) (k : Nat) :
    (l.zipIdx k).Pairwise fun x y => x.2 < y.2 := by
  have h : ((l.zipIdx k).map Prod.snd).Pairwise (· < ·) := by
    rw [List.zipIdx_map_snd]
    exact List.pairwise_lt_range'
  exact List.pairwise_map.mp h

/-- No position has two entries. -/
theorem nodup_positions (g : Grid α) : (g.entries.map Prod.fst).Nodup := by
  rw [entries_eq, List.map_flatMap, List.nodup_flatMap]
  constructor
  · intro r _
    rw [rowEntries, List.map_map]
    refine List.pairwise_map.mpr ((pairwise_zipIdx r.1 g.start.col).imp ?_)
    rintro ⟨_, c⟩ ⟨_, d⟩ hlt heq
    exact Nat.ne_of_lt hlt (congrArg Coordinate.col heq)
  · refine (pairwise_zipIdx g.rows g.start.row).imp ?_
    rintro ⟨cells, row⟩ ⟨cells', row'⟩ hlt p hp hp'
    obtain ⟨⟨q, _⟩, hq, rfl⟩ := List.mem_map.mp hp
    obtain ⟨⟨q', _⟩, hq', heq⟩ := List.mem_map.mp hp'
    have hrow := (mem_rowEntries_iff.mp hq).1
    have hrow' := (mem_rowEntries_iff.mp hq').1
    obtain rfl : q' = q := heq
    exact Nat.ne_of_lt hlt (hrow.symm.trans hrow')

/-- Where a test fails for good once it fails, the entries up to there are those that pass it. -/
theorem takeWhile_eq_filter {β : Type} {test : β → Bool} {l : List β}
    (h : l.Pairwise fun x y => test y = true → test x = true) :
    l.takeWhile test = l.filter test := by
  induction h with
  | nil => rfl
  | @cons x l hx _ ih =>
    by_cases hpass : test x = true
    · rw [List.takeWhile_cons_of_pos hpass, List.filter_cons_of_pos hpass, ih]
    · have hnone : l.filter test = [] :=
        List.filter_eq_nil_iff.mpr fun y hy hy' => hpass (hx y hy hy')
      rw [List.takeWhile_cons_of_neg hpass, List.filter_cons_of_neg hpass, hnone]

theorem takeWhile_rowEntries (row col : Nat) (cells : List α) :
    ((rowEntries row col cells).takeWhile fun e => e.1.col < maxColumns) =
      (rowEntries row col cells).filter fun e => e.1.col < maxColumns := by
  refine takeWhile_eq_filter (List.pairwise_map.mpr ((pairwise_zipIdx cells col).imp ?_))
  rintro ⟨_, c⟩ ⟨_, d⟩ hlt hd
  simp only [decide_eq_true_eq] at hlt hd ⊢
  omega

/-- The entries of a row within the limits: none, if the row itself is beyond them. -/
theorem filter_rowEntries (row col : Nat) (cells : List α) :
    ((rowEntries row col cells).filter fun e => e.1.InSheet) =
      if row < maxRows then (rowEntries row col cells).filter fun e => e.1.col < maxColumns
      else [] := by
  have hrow : ∀ e ∈ rowEntries row col cells, e.1.row = row := fun e he =>
    (mem_rowEntries_iff.mp he).1
  split
  case isTrue hlt =>
    refine List.filter_congr fun e he => ?_
    simp [Coordinate.InSheet, hrow e he, hlt]
  case isFalse hlt =>
    refine List.filter_eq_nil_iff.mpr fun e he => ?_
    simp [Coordinate.InSheet, hrow e he, hlt]

theorem entriesWithin_eq (g : Grid α) : g.entriesWithin =
    ((g.rows.zipIdx g.start.row).takeWhile fun r => r.2 < maxRows).flatMap fun r =>
      (rowEntries r.2 g.start.col r.1).takeWhile fun e => e.1.col < maxColumns :=
  rfl

/-- Stopping at the limits leaves out the entries beyond them only. -/
theorem entriesWithin_eq_filter (g : Grid α) :
    g.entriesWithin = g.entries.filter fun e => e.1.InSheet := by
  have hrows : ((g.rows.zipIdx g.start.row).takeWhile fun r => r.2 < maxRows) =
      (g.rows.zipIdx g.start.row).filter fun r => r.2 < maxRows := by
    refine takeWhile_eq_filter ((pairwise_zipIdx g.rows g.start.row).imp ?_)
    intro r r' hlt hr'
    simp only [decide_eq_true_eq] at hr' ⊢
    omega
  rw [entriesWithin_eq, entries_eq, hrows, List.filter_flatMap]
  simp only [takeWhile_rowEntries, filter_rowEntries]
  generalize g.rows.zipIdx g.start.row = rows
  induction rows with
  | nil => rfl
  | cons r rows ih =>
    rw [List.flatMap_cons, ← ih]
    by_cases hlt : r.2 < maxRows
    · rw [List.filter_cons_of_pos (by simpa using hlt), List.flatMap_cons, if_pos hlt]
    · rw [List.filter_cons_of_neg (by simpa using hlt), if_neg hlt, List.nil_append]

/-- Within the limits, the entries up to them are those that are found at their positions. -/
theorem mem_entriesWithin_iff : (p, a) ∈ g.entriesWithin ↔ p.InSheet ∧ g.at? p = some a := by
  rw [entriesWithin_eq_filter, List.mem_filter, mem_entries_iff, and_comm]
  simp

theorem nodup_positionsWithin (g : Grid α) : (g.entriesWithin.map Prod.fst).Nodup := by
  rw [entriesWithin_eq_filter]
  exact g.nodup_positions.sublist (List.filter_sublist.map Prod.fst)

end Grid

/-! ### Cells by their positions -/

namespace Sheet

variable {s : Sheet} {p : Coordinate}

/-- The number of cells with a value. -/
def valueCount (s : Sheet) : Nat :=
  s.cells.toList.countP fun (_, c) => !c.value.isEmpty

theorem value_eq_getD (s : Sheet) (p : Coordinate) :
    s.value p = ((s.cell? p).map Cell.value).getD .empty := by
  unfold value
  cases s.cell? p <;> rfl

/-- Cells are counted by a list of their positions. -/
theorem countP_cells_eq_length (test : Cell → Bool) {ps : List Coordinate} (hnodup : ps.Nodup)
    (hmem : ∀ p, p ∈ ps ↔ ∃ c, s.cell? p = some c ∧ test c = true) :
    (s.cells.toList.countP fun (_, c) => test c) = ps.length := by
  have hkeys : ((s.cells.toList.filter fun (_, c) => test c).map Prod.fst).Nodup := by
    refine List.Nodup.sublist (List.filter_sublist.map Prod.fst) ?_
    rw [Std.TreeMap.map_fst_toList_eq_keys]
    exact Std.TreeMap.nodup_keys
  rw [List.countP_eq_length_filter, ← List.length_map (f := Prod.fst)]
  refine ((List.perm_ext_iff_of_nodup hkeys hnodup).mpr fun p => ?_).length_eq
  rw [hmem, List.mem_map]
  constructor
  · rintro ⟨⟨_, c⟩, hc, rfl⟩
    obtain ⟨hc, htest⟩ := List.mem_filter.mp hc
    exact ⟨c, Std.TreeMap.mem_toList_iff_getElem?_eq_some.mp hc, htest⟩
  · rintro ⟨c, hc, htest⟩
    refine ⟨(p, c), List.mem_filter.mpr ⟨?_, htest⟩, rfl⟩
    exact Std.TreeMap.mem_toList_iff_getElem?_eq_some.mpr hc

theorem valueCount_eq_length {ps : List Coordinate} (hnodup : ps.Nodup)
    (hmem : ∀ p, p ∈ ps ↔ (s.value p).isEmpty = false) : s.valueCount = ps.length := by
  refine countP_cells_eq_length (fun c => !c.value.isEmpty) hnodup fun p => ?_
  rw [hmem, value_eq_getD]
  cases s.cell? p <;> simp [CellValue.isEmpty]

theorem formulaCount_eq_length {ps : List Coordinate} (hnodup : ps.Nodup)
    (hmem : ∀ p, p ∈ ps ↔ (s.formula? p).isSome = true) : s.formulaCount = ps.length := by
  refine countP_cells_eq_length (fun c => c.formula.isSome) hnodup fun p => ?_
  rw [hmem, formula?]
  cases s.cell? p <;> simp

end Sheet

/-! ### Loops of writes -/

namespace LoadingSheet

section Writes

variable {α : Type} {step : LoadingSheet → Coordinate → α → LoadingSheet}
  {put : Coordinate → α → Option Cell → Option Cell} {es : List (Coordinate × α)} {q : Coordinate}

/-- A step of a loop changes the cell at one position only. -/
def WritesOne (step : LoadingSheet → Coordinate → α → LoadingSheet)
    (put : Coordinate → α → Option Cell → Option Cell) : Prop :=
  ∀ l p a q, (step l p a).sheet.cell? q =
    if q = p then put p a (l.sheet.cell? q) else l.sheet.cell? q

theorem WritesOne.cell?_foldl_of_notMem (h : WritesOne step put) (hq : q ∉ es.map Prod.fst)
    (l : LoadingSheet) :
    (es.foldl (fun l e => step l e.1 e.2) l).sheet.cell? q = l.sheet.cell? q := by
  induction es generalizing l with
  | nil => rfl
  | cons e es ih =>
    rw [List.map_cons, List.mem_cons, not_or] at hq
    rw [List.foldl_cons, ih hq.2, h, if_neg hq.1]

theorem WritesOne.cell?_foldl_of_mem (h : WritesOne step put) (hnodup : (es.map Prod.fst).Nodup)
    {a : α} (hmem : (q, a) ∈ es) (l : LoadingSheet) :
    (es.foldl (fun l e => step l e.1 e.2) l).sheet.cell? q = put q a (l.sheet.cell? q) := by
  induction es generalizing l with
  | nil => cases hmem
  | cons e es ih =>
    obtain ⟨hnot, hnodup⟩ := List.nodup_cons.mp hnodup
    rw [List.foldl_cons]
    rcases List.mem_cons.mp hmem with rfl | hmem
    · rw [h.cell?_foldl_of_notMem hnot, h, if_pos rfl]
    · have hne : q ≠ e.1 := by
        rintro rfl
        exact hnot (List.mem_map.mpr ⟨_, hmem, rfl⟩)
      rw [ih hnodup hmem, h, if_neg hne]

/-- A loop over entries at different positions changes each cell by the entry for it, if there is
one. -/
theorem WritesOne.cell?_foldl (h : WritesOne step put) (hnodup : (es.map Prod.fst).Nodup)
    {found : Option α} (hfound : ∀ a, (q, a) ∈ es ↔ found = some a) (l : LoadingSheet) :
    (es.foldl (fun l e => step l e.1 e.2) l).sheet.cell? q =
      found.elim (l.sheet.cell? q) fun a => put q a (l.sheet.cell? q) := by
  cases found with
  | none =>
    refine h.cell?_foldl_of_notMem (fun hq => ?_) l
    obtain ⟨⟨_, a⟩, ha, rfl⟩ := List.mem_map.mp hq
    cases (hfound a).mp ha
  | some a => exact h.cell?_foldl_of_mem hnodup ((hfound a).mpr rfl) l

end Writes

/-- What an entry of the values makes of the cell at a position. -/
def putValue (_ : Coordinate) (stored : StoredValue) (c : Option Cell) : Option Cell :=
  if stored.load.isEmpty then c else some { c.getD {} with value := stored.load }

/-- The loop over the formulas passes over an entry. -/
def isPassedOver (p : Coordinate) (stored : String) : Bool :=
  stored.isEmpty || !decide p.InSheet

/-- What an entry of the formulas makes of the cell at a position. -/
def putFormula (p : Coordinate) (stored : String) (c : Option Cell) : Option Cell :=
  if isPassedOver p stored then c
  else some (.ofFormula (Package.storedFormula stored) ((c.map Cell.value).getD .empty))

theorem addValue_cases (l : LoadingSheet) (p : Coordinate) (stored : StoredValue) :
    (stored.load.isEmpty = true ∧ l.addValue p stored = l) ∨
      stored.load.isEmpty = false ∧ l.addValue p stored =
        { l with sheet := l.sheet.setValue p stored.load, values := l.values + 1 } := by
  cases hempty : stored.load.isEmpty with
  | true => exact .inl ⟨rfl, if_pos hempty⟩
  | false => exact .inr ⟨rfl, if_neg (by simp [hempty])⟩

theorem addFormula_cases (l : LoadingSheet) (p : Coordinate) (stored : String) :
    (isPassedOver p stored = true ∧ l.addFormula p stored = l) ∨
      isPassedOver p stored = false ∧ l.addFormula p stored =
        { l with
          sheet := l.sheet.setFormula p (Package.storedFormula stored)
          formulas := l.formulas + 1 } := by
  unfold isPassedOver addFormula
  cases stored.isEmpty with
  | true => exact .inl ⟨rfl, rfl⟩
  | false => by_cases hp : p.InSheet <;> simp [hp]

theorem writesOne_addValue : WritesOne addValue putValue := by
  intro l p stored q
  rcases l.addValue_cases p stored with ⟨hempty, heq⟩ | ⟨hvalue, heq⟩
  · simp [heq, putValue, hempty]
  · rw [heq, Sheet.setValue, Sheet.cell?_setCell]
    split
    case isTrue hq => simp [putValue, hvalue, hq]
    case isFalse => rfl

theorem writesOne_addFormula : WritesOne addFormula putFormula := by
  intro l p stored q
  rcases l.addFormula_cases p stored with ⟨hpassed, heq⟩ | ⟨hwritten, heq⟩
  · simp [heq, putFormula, hpassed]
  · rw [heq, Sheet.setFormula, Sheet.cell?_setCell, Sheet.value_eq_getD]
    split
    case isTrue hq => simp [putFormula, hwritten, hq]
    case isFalse => rfl

/-- What the loop over the values leaves, apart from cells. -/
theorem foldl_addValue (es : List (Coordinate × StoredValue)) (l : LoadingSheet) :
    let l' := es.foldl (fun l e => l.addValue e.1 e.2) l
    l'.sheet.name = l.sheet.name ∧ l'.sheet.merges = l.sheet.merges ∧ l'.formulas = l.formulas ∧
      l'.values = l.values + es.countP fun e => !e.2.load.isEmpty := by
  induction es generalizing l with
  | nil => exact ⟨rfl, rfl, rfl, rfl⟩
  | cons e es ih =>
    have hrest := ih (l.addValue e.1 e.2)
    rw [List.foldl_cons, List.countP_cons]
    rcases l.addValue_cases e.1 e.2 with ⟨hempty, heq⟩ | ⟨hvalue, heq⟩
    · rw [heq] at hrest ⊢
      simpa [hempty] using hrest
    · rw [heq] at hrest ⊢
      obtain ⟨hname, hmerges, hformulas, hvalues⟩ := hrest
      refine ⟨hname, hmerges, hformulas, hvalues.trans ?_⟩
      simp only [hvalue, Bool.not_false, if_true]
      omega

/-- What the loop over the formulas leaves, apart from cells. -/
theorem foldl_addFormula (es : List (Coordinate × String)) (l : LoadingSheet) :
    let l' := es.foldl (fun l e => l.addFormula e.1 e.2) l
    l'.sheet.name = l.sheet.name ∧ l'.sheet.merges = l.sheet.merges ∧ l'.values = l.values ∧
      l'.formulas = l.formulas + es.countP fun e => !isPassedOver e.1 e.2 := by
  induction es generalizing l with
  | nil => exact ⟨rfl, rfl, rfl, rfl⟩
  | cons e es ih =>
    have hrest := ih (l.addFormula e.1 e.2)
    rw [List.foldl_cons, List.countP_cons]
    rcases l.addFormula_cases e.1 e.2 with ⟨hpassed, heq⟩ | ⟨hwritten, heq⟩
    · rw [heq] at hrest ⊢
      simpa [hpassed] using hrest
    · rw [heq] at hrest ⊢
      obtain ⟨hname, hmerges, hvalues, hformulas⟩ := hrest
      refine ⟨hname, hmerges, hvalues, hformulas.trans ?_⟩
      simp only [hwritten, Bool.not_false, if_true]
      omega

end LoadingSheet

/-! ### Loaded sheets -/

namespace DeliveredSheet

open LoadingSheet

theorem cell?_loadValues (name : String) (g : Grid StoredValue) (q : Coordinate) :
    (loadValues name g).sheet.cell? q =
      if q.InSheet then (g.at? q).bind fun stored => putValue q stored none else none := by
  have hnew : (Sheet.new name).cell? q = none := Std.TreeMap.getElem?_emptyc
  have hfound (a : StoredValue) :
      (q, a) ∈ g.entriesWithin ↔ (if q.InSheet then g.at? q else none) = some a := by
    rw [Grid.mem_entriesWithin_iff]
    split <;> simp_all
  refine (writesOne_addValue.cell?_foldl g.nodup_positionsWithin hfound _).trans ?_
  rw [hnew]
  split
  case isTrue => cases g.at? q <;> rfl
  case isFalse => rfl

theorem cell?_loadFormulas (formulas : Option (Grid String)) (l : LoadingSheet) (q : Coordinate) :
    (loadFormulas formulas l).sheet.cell? q =
      (formulas.bind (·.at? q)).elim (l.sheet.cell? q) fun stored =>
        putFormula q stored (l.sheet.cell? q) := by
  cases formulas with
  | none => rfl
  | some g =>
    exact writesOne_addFormula.cell?_foldl g.nodup_positions (fun a => Grid.mem_entries_iff) l

end DeliveredSheet

/-- A sheet holds what was delivered for it, and nothing else: at each position of a sheet the value
and the formula that the two grids have there, and nothing beyond. -/
structure SheetLoaded (s : DeliveredSheet) (t : Sheet) : Prop where
  /-- It has the title. -/
  name : t.name = s.name
  /-- The values are those of the grid of values. -/
  value (p : Coordinate) : p.InSheet →
    t.value p = ((s.values.bind (·.at? p)).map StoredValue.load).getD .empty
  /-- The formulas are those of the grid of formulas, with an equals sign and in the plain dialect. -/
  formula (p : Coordinate) : p.InSheet →
    t.formula? p = ((s.formulas.bind (·.at? p)).filter fun stored => !stored.isEmpty).map
      fun stored => Package.plainFormula (withEquals stored)
  /-- There is nothing beyond the limits. -/
  outside (p : Coordinate) : ¬ p.InSheet → t.cell? p = none

/-- Only titles and cells matter. -/
theorem SheetLoaded.congr {s : DeliveredSheet} {t t' : Sheet} (h : SheetLoaded s t)
    (hname : t'.name = t.name) (hcells : t'.cells = t.cells) : SheetLoaded s t' := by
  have hcell (p : Coordinate) : t'.cell? p = t.cell? p := by
    rw [Sheet.cell?, Sheet.cell?, hcells]
  refine ⟨hname.trans h.name, fun p hp => ?_, fun p hp => ?_, fun p hp => ?_⟩
  · rw [← h.value p hp, Sheet.value_eq_getD, Sheet.value_eq_getD, hcell]
  · rw [← h.formula p hp, Sheet.formula?, Sheet.formula?, hcell]
  · rw [hcell, h.outside p hp]

theorem CellValue.eq_empty_of_isEmpty {v : CellValue} (h : v.isEmpty = true) : v = .empty := by
  cases v <;> first | rfl | cases h

theorem head?_storedFormula (stored : String) :
    (Package.storedFormula stored).toList.head? = some '=' := by
  have hequals : (withEquals stored).toList.head? = some '=' := by
    unfold withEquals
    split
    case isTrue h => exact h
    case isFalse => simp
  unfold Package.storedFormula Package.plainFormula
  split
  case h_1 | h_2 => simp
  case h_3 => exact hequals

namespace LoadingSheet

theorem value_putFormula (p : Coordinate) (stored : String) (c : Option Cell) :
    ((putFormula p stored c).map Cell.value).getD .empty = (c.map Cell.value).getD .empty := by
  unfold putFormula
  split <;> rfl

theorem formula_putFormula (p : Coordinate) (stored : String) (c : Option Cell) :
    (putFormula p stored c).bind Cell.formula =
      if isPassedOver p stored then c.bind Cell.formula
      else some (Package.storedFormula stored) := by
  unfold putFormula
  split
  case isTrue => rfl
  case isFalse =>
    rw [Option.bind_some, Cell.ofFormula, withEquals, if_pos (head?_storedFormula stored)]

theorem value_putValue_none (p : Coordinate) (stored : StoredValue) :
    ((putValue p stored none).map Cell.value).getD .empty = stored.load := by
  unfold putValue
  split
  case isTrue h => rw [CellValue.eq_empty_of_isEmpty h]; rfl
  case isFalse => rfl

theorem formula_putValue_none (p : Coordinate) (stored : StoredValue) :
    (putValue p stored none).bind Cell.formula = none := by
  unfold putValue
  split <;> rfl

end LoadingSheet

namespace DeliveredSheet

open LoadingSheet

variable {s : DeliveredSheet} {l : LoadingSheet}

theorem load?_eq_some_iff : s.load? = some l ↔
    ∃ values, s.values = some values ∧ loadFormulas s.formulas (loadValues s.name values) = l :=
  Option.map_eq_some_iff

theorem name_loadFormulas (formulas : Option (Grid String)) (l : LoadingSheet) :
    (loadFormulas formulas l).sheet.name = l.sheet.name := by
  cases formulas with
  | none => rfl
  | some g => exact (foldl_addFormula g.entries l).1

/-- **A loaded sheet holds what was delivered**, wherever the two grids begin. -/
theorem sheetLoaded_of_load? (h : s.load? = some l) : SheetLoaded s l.sheet := by
  obtain ⟨values, hvalues, rfl⟩ := load?_eq_some_iff.mp h
  refine ⟨?_, fun p hp => ?_, fun p hp => ?_, fun p hp => ?_⟩
  · rw [name_loadFormulas]
    exact (foldl_addValue values.entriesWithin _).1
  · have hkept : (loadFormulas s.formulas (loadValues s.name values)).sheet.value p =
        (loadValues s.name values).sheet.value p := by
      rw [Sheet.value_eq_getD, Sheet.value_eq_getD, cell?_loadFormulas]
      cases s.formulas.bind (·.at? p) with
      | none => rfl
      | some stored => exact value_putFormula p stored _
    rw [hkept, Sheet.value_eq_getD, cell?_loadValues, if_pos hp, hvalues, Option.bind_some]
    cases values.at? p with
    | none => rfl
    | some stored => exact value_putValue_none p stored
  · have hnone : ((loadValues s.name values).sheet.cell? p).bind Cell.formula = none := by
      rw [cell?_loadValues, if_pos hp]
      cases values.at? p with
      | none => rfl
      | some stored => exact formula_putValue_none p stored
    rw [Sheet.formula?, cell?_loadFormulas]
    cases s.formulas.bind (·.at? p) with
    | none => exact hnone
    | some stored =>
      rw [Option.elim_some, formula_putFormula, hnone, isPassedOver, decide_eq_true hp]
      cases hempty : stored.isEmpty <;> simp [Option.filter, hempty, Package.storedFormula]
  · rw [cell?_loadFormulas, cell?_loadValues, if_neg hp]
    cases s.formulas.bind (·.at? p) with
    | none => rfl
    | some stored => simp [putFormula, isPassedOver, hp]

end DeliveredSheet

namespace SheetLoaded

open LoadingSheet

variable {s : DeliveredSheet} {t : Sheet}

theorem valueCount_eq (h : SheetLoaded s t) {values : Grid StoredValue}
    (hvalues : s.values = some values) :
    t.valueCount = values.entriesWithin.countP fun e => !e.2.load.isEmpty := by
  rw [List.countP_eq_length_filter, ← List.length_map (f := Prod.fst)]
  refine Sheet.valueCount_eq_length
    (values.nodup_positionsWithin.sublist (List.filter_sublist.map Prod.fst)) fun p => ?_
  rw [List.mem_map]
  constructor
  · rintro ⟨⟨_, stored⟩, hmem, rfl⟩
    obtain ⟨hmem, hvalue⟩ := List.mem_filter.mp hmem
    obtain ⟨hp, hat⟩ := Grid.mem_entriesWithin_iff.mp hmem
    rw [h.value _ hp, hvalues, Option.bind_some, hat]
    simpa using hvalue
  · intro hvalue
    by_cases hp : p.InSheet
    · rw [h.value p hp, hvalues, Option.bind_some] at hvalue
      cases hat : values.at? p with
      | none =>
        rw [hat] at hvalue
        cases hvalue
      | some stored =>
        rw [hat] at hvalue
        refine ⟨(p, stored), List.mem_filter.mpr ⟨?_, ?_⟩, rfl⟩
        · exact Grid.mem_entriesWithin_iff.mpr ⟨hp, hat⟩
        · simpa using hvalue
    · rw [Sheet.value_eq_getD, h.outside p hp] at hvalue
      cases hvalue

theorem formulaCount_eq (h : SheetLoaded s t) :
    t.formulaCount =
      ((s.formulas.map Grid.entries).getD []).countP fun e => !isPassedOver e.1 e.2 := by
  have hnodup : (((s.formulas.map Grid.entries).getD []).map Prod.fst).Nodup := by
    cases s.formulas with
    | none => exact List.nodup_nil
    | some g => exact g.nodup_positions
  have hentry (p : Coordinate) (stored : String) :
      (p, stored) ∈ (s.formulas.map Grid.entries).getD [] ↔
        s.formulas.bind (·.at? p) = some stored := by
    cases s.formulas with
    | none => simp
    | some g => exact Grid.mem_entries_iff
  rw [List.countP_eq_length_filter, ← List.length_map (f := Prod.fst)]
  refine Sheet.formulaCount_eq_length
    (hnodup.sublist (List.filter_sublist.map Prod.fst)) fun p => ?_
  rw [List.mem_map]
  by_cases hp : p.InSheet
  · rw [h.formula p hp, Option.isSome_map]
    constructor
    · rintro ⟨⟨_, stored⟩, hmem, rfl⟩
      obtain ⟨hmem, hwritten⟩ := List.mem_filter.mp hmem
      rw [(hentry _ _).mp hmem]
      simp_all [isPassedOver, Option.filter]
    · intro hformula
      obtain ⟨stored, hstored⟩ := Option.isSome_iff_exists.mp hformula
      obtain ⟨hfound, hnonempty⟩ := Option.filter_eq_some_iff.mp hstored
      refine ⟨(p, stored), List.mem_filter.mpr ⟨(hentry p stored).mpr hfound, ?_⟩, rfl⟩
      simp_all [isPassedOver]
  · rw [Sheet.formula?, h.outside p hp]
    refine iff_of_false ?_ (by simp)
    rintro ⟨⟨_, stored⟩, hmem, rfl⟩
    simp [isPassedOver, hp] at hmem

end SheetLoaded

namespace DeliveredSheet

open LoadingSheet

variable {s : DeliveredSheet} {l : LoadingSheet}

/-- The numbers that the loops count are those of the values and formulas that they leave. -/
theorem counts_of_load? (h : s.load? = some l) :
    l.values = l.sheet.valueCount ∧ l.formulas = l.sheet.formulaCount ∧ l.sheet.merges = [] := by
  have hloaded := sheetLoaded_of_load? h
  obtain ⟨values, hvalues, rfl⟩ := load?_eq_some_iff.mp h
  rw [hloaded.valueCount_eq hvalues, hloaded.formulaCount_eq]
  obtain ⟨-, hmerges, hformulas, hcount⟩ :=
    foldl_addValue values.entriesWithin { sheet := .new s.name }
  rw [Nat.zero_add] at hcount
  cases hgrid : s.formulas with
  | none => exact ⟨hcount, hformulas, hmerges⟩
  | some g =>
    obtain ⟨-, hmerges', hvalues', hcount'⟩ := foldl_addFormula g.entries (loadValues s.name values)
    refine ⟨hvalues'.trans hcount, hcount'.trans ?_, hmerges'.trans hmerges⟩
    rw [show (loadValues s.name values).formulas = 0 from hformulas, Nat.zero_add]
    rfl

end DeliveredSheet

end ReportCompiler
