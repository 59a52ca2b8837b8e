import Mathlib.Order.Interval.Set.Defs
import ReportCompiler.Program.Override
import ReportCompiler.Proofs.Cell.NormalForm
import ReportCompiler.Proofs.Layout.Check

/-!
# What stands for the cells of the label and data sheets

The override of a cell is looked for in four tables, one after the other: the label sheet as a whole,
the constants, the accessors and the rectangle of event counters.  The first one that has the cell
decides.  Constants and accessors are written as coordinates in any spelling.  The rows of the
rectangle are counted from one and those of cells from zero, and differences of rows are cut off at
zero.  In a layout that passes the check no difference ever is.

## Main definitions

* `EventTable.cells` - the positions of the rectangle.
* `Source.ConstantAt`, `Source.GetterAt` - a position is a constant, or is asked from the accessor.
* `Source.StandsFor` - what stands for a cell, case by case.

## Main results

* `EventTable.Usable.thread_add_headerRow` - the thread of a cell, and the header row, exactly.
* `Source.overrideOf_eq_of_standsFor` - **the cases exclude each other**, and the override is what
  they say.
* `Source.exists_standsFor` - **there are no other cases.**
* `Source.overrideOf_eq_iff` - both together, and what they come to for event counters.
-/

namespace ReportCompiler

open Text (isBlank)

/-- A text is blank exactly if nothing is left of it without its blanks. -/
theorem Text.isEmpty_trim_iff {s : String} :
    (trim s).isEmpty ↔ ∀ c ∈ s.toList, isBlank c := by
  rw [String.isEmpty_iff, ← String.toList_eq_nil_iff, toList_trim, trimChars, trimRight,
    List.reverse_eq_nil_iff, List.dropWhile_eq_nil_iff]
  simp only [List.mem_reverse]
  constructor
  · intro h
    -- the first character that is kept on the left is no blank
    have hnil : s.toList.dropWhile isBlank = [] := by
      have hhead := not_isBlank_head_dropWhile s.toList
      cases hdrop : s.toList.dropWhile isBlank with
      | nil => rfl
      | cons c rest =>
        rw [hdrop] at h hhead
        have hblank := h c List.mem_cons_self
        rw [hhead c rfl] at hblank
        cases hblank
    exact List.dropWhile_eq_nil_iff.mp hnil
  · intro h c hc
    exact h c ((List.dropWhile_suffix _).subset hc)

/-! ### The rectangle of event counters -/

namespace EventTable

variable {t : EventTable} {p q : Coordinate}

/-- The positions of the rectangle, whose rows are counted from one. -/
def cells (t : EventTable) : Set Coordinate :=
  {p | p.row + 1 ∈ Set.Icc t.firstRow t.lastRow ∧ ∃ first last,
    column? t.firstColumn.toList = some first ∧ column? t.lastColumn.toList = some last ∧
      p.col ∈ Set.Icc first last}

theorem contains_iff : t.contains p ↔ p ∈ t.cells := by
  unfold contains cells
  rw [Set.mem_ofPred_eq]
  cases column? t.firstColumn.toList with
  | none => simp
  | some first =>
    cases column? t.lastColumn.toList with
    | none => simp
    | some last => simp [Set.mem_Icc, and_assoc]

/-- The header row lies above the rectangle. -/
theorem Usable.headerRow_lt_of_mem (h : t.Usable) (hp : p ∈ t.cells) : t.headerRow < p.row + 1 :=
  h.headerRow_lt.trans_le hp.1.1

/-- Nothing is cut off when the header row is counted from zero. -/
theorem Usable.headerIndex_add_one (h : t.Usable) : t.headerIndex + 1 = t.headerRow := by
  have hpos := h.headerRow_pos
  unfold headerIndex
  omega

/-- Nothing is cut off when the threads are counted. -/
theorem Usable.thread_add_headerRow (h : t.Usable) (hp : p ∈ t.cells) :
    t.thread p.row + t.headerRow = p.row := by
  have hlt := h.headerRow_lt_of_mem hp
  unfold thread
  omega

end EventTable

/-! ### The tables of a layout -/

namespace Source

variable {src : Source} {cell : Address} {p : Coordinate} {g : Getter} {t : EventTable}
  {o : Except ReferenceError (Option Override)}

/-- Some constant of the layout is a way to write the position. -/
def ConstantAt (src : Source) (p : Coordinate) : Prop :=
  p.InSheet ∧ ∃ text ∈ src.layout.constants, p.WrittenAs text.toList

/-- The first accessor of the layout that is a way to write the position has the getter. -/
def GetterAt (src : Source) (p : Coordinate) (g : Getter) : Prop :=
  p.InSheet ∧ ∃ before text after, src.layout.accessors = before ++ (text, g) :: after ∧
    p.WrittenAs text.toList ∧ ∀ earlier ∈ before, ¬ p.WrittenAs earlier.1.toList

theorem constantAt_iff : (src.layout.constants.any fun text => coordinate? text == some p) ↔
    src.ConstantAt p := by
  simp only [ConstantAt, List.any_eq_true, beq_iff_eq, coordinate?_eq_some_iff]
  constructor
  · rintro ⟨text, htext, hsheet, hwritten⟩
    exact ⟨hsheet, text, htext, hwritten⟩
  · rintro ⟨hsheet, text, htext, hwritten⟩
    exact ⟨text, htext, hsheet, hwritten⟩

theorem getterAt_iff : (∃ text, src.layout.accessors.find?
      (fun (text, _) => coordinate? text == some p) = some (text, g)) ↔ src.GetterAt p g := by
  simp only [List.find?_eq_some_iff_append, GetterAt, beq_iff_eq, Bool.not_eq_true',
    beq_eq_false_iff_ne, ne_eq, coordinate?_eq_some_iff, not_and]
  constructor
  · rintro ⟨text, ⟨hsheet, hwritten⟩, before, after, hsplit, hbefore⟩
    refine ⟨hsheet, before, text, after, hsplit, hwritten, ?_⟩
    intro earlier hearlier
    exact hbefore earlier hearlier hsheet
  · rintro ⟨hsheet, before, text, after, hsplit, hwritten, hbefore⟩
    refine ⟨text, ⟨hsheet, hwritten⟩, before, after, hsplit, ?_⟩
    intro earlier hearlier _
    exact hbefore earlier hearlier

/-- The cell is on the data sheet, and this is not the label sheet. -/
def OnData (src : Source) (cell : Address) : Prop :=
  ¬ Text.sameFold cell.sheet src.layout.labelSheet ∧
    Text.sameFold cell.sheet src.layout.dataSheet

/-- A cell of the data sheet that is neither a constant nor asked from the accessor by itself. -/
structure Unclaimed (src : Source) (cell : Address) : Prop where
  /-- It is on the data sheet. -/
  onData : src.OnData cell
  /-- No constant is written for it. -/
  constant : ¬ src.ConstantAt cell.position
  /-- No accessor is written for it. -/
  getter (g : Getter) : ¬ src.GetterAt cell.position g

/-- The cell in the header row of the table above or below a cell.  Its row is counted from zero. -/
structure EventHeader (t : EventTable) (cell header : Address) : Prop where
  /-- It is on the sheet of the cell. -/
  sheet : header.sheet = cell.sheet
  /-- It is in the header row. -/
  row : header.row + 1 = t.headerRow
  /-- It is in the column of the cell. -/
  col : header.col = cell.col

/-- What stands for a cell, or why nothing can. -/
inductive StandsFor (src : Source) (cell : Address) : Except ReferenceError (Option Override) → Prop
  /-- On the label sheet, what the cell shows. -/
  | label (hlabel : Text.sameFold cell.sheet src.layout.labelSheet) :
    StandsFor src cell (.ok (some (.label (src.workbook.value cell).display)))
  /-- Nothing on any sheet but the two. -/
  | elsewhere (hlabel : ¬ Text.sameFold cell.sheet src.layout.labelSheet)
    (hdata : ¬ Text.sameFold cell.sheet src.layout.dataSheet) : StandsFor src cell (.ok none)
  /-- The value of a constant. -/
  | constant (hdata : src.OnData cell) (hconstant : src.ConstantAt cell.position) :
    StandsFor src cell (.ok (some (.constant (src.workbook.value cell))))
  /-- The getter of a cell that is no constant. -/
  | getter {g : Getter} (hdata : src.OnData cell) (hconstant : ¬ src.ConstantAt cell.position)
    (hgetter : src.GetterAt cell.position g) : StandsFor src cell (.ok (some (.getter g)))
  /-- The counter of an event, whose name stands in the header row.  Below the header row the threads
  are counted from zero. -/
  | event {t : EventTable} {header : Address} {thread : Nat} (hunclaimed : src.Unclaimed cell)
    (ht : src.layout.eventTable = some t) (hcell : cell.position ∈ t.cells)
    (hheader : EventHeader t cell header)
    (hname : ∃ c ∈ (src.workbook.value header).display.toList, isBlank c = false)
    (hthread : (thread : Int) = (cell.row + 1 : Int) - t.headerRow - 1) :
    StandsFor src cell (.ok (some (.event (src.workbook.value header).display thread)))
  /-- An event without a name is an error. -/
  | unnamed {t : EventTable} {header : Address} (hunclaimed : src.Unclaimed cell)
    (ht : src.layout.eventTable = some t) (hcell : cell.position ∈ t.cells)
    (hheader : EventHeader t cell header)
    (hblank : ∀ c ∈ (src.workbook.value header).display.toList, isBlank c) :
    StandsFor src cell (.error ⟨cell.text, .emptyHeader header⟩)
  /-- Nothing outside of the rectangle. -/
  | plain (hunclaimed : src.Unclaimed cell)
    (houtside : ∀ t ∈ src.layout.eventTable, cell.position ∉ t.cells) : StandsFor src cell (.ok none)

/-! ### One table after the other -/

theorem overrideOf_of_onData (h : src.OnData cell) : src.overrideOf cell =
    if src.layout.constants.any fun c => coordinate? c == some cell.position then
      .ok (some (.constant (src.workbook.value cell)))
    else match src.layout.accessors.find? fun (c, _) => coordinate? c == some cell.position with
      | some (_, g) => .ok (some (.getter g))
      | none => src.eventAt cell := by
  unfold overrideOf
  exact (if_neg h.1).trans (if_neg (by simpa using h.2))

theorem overrideOf_of_unclaimed (h : src.Unclaimed cell) : src.overrideOf cell = src.eventAt cell := by
  have hconstant := h.constant
  rw [← constantAt_iff] at hconstant
  rw [overrideOf_of_onData h.onData, if_neg hconstant]
  split
  · next text g hfind => exact absurd (getterAt_iff.mp ⟨text, hfind⟩) (h.getter g)
  · rfl

theorem eventAt_of_mem (ht : src.layout.eventTable = some t) (hcell : cell.position ∈ t.cells) :
    src.eventAt cell =
      let header : Address := ⟨cell.sheet, t.headerIndex, cell.col⟩
      let name := (src.workbook.value header).display
      if (Text.trim name).isEmpty then .error ⟨cell.text, .emptyHeader header⟩
      else .ok (some (.event name (t.thread cell.row))) := by
  unfold eventAt
  rw [ht]
  exact if_pos (EventTable.contains_iff.mpr hcell)

theorem eventAt_of_notMem (h : ∀ t ∈ src.layout.eventTable, cell.position ∉ t.cells) :
    src.eventAt cell = .ok none := by
  unfold eventAt
  cases ht : src.layout.eventTable with
  | none => rfl
  | some t =>
    have houtside := h t ht
    rw [← EventTable.contains_iff] at houtside
    exact if_neg houtside

/-- The header row, counted from zero, has the header of every cell. -/
theorem EventHeader.eq (h : t.Usable) {header : Address} (hheader : EventHeader t cell header) :
    header = ⟨cell.sheet, t.headerIndex, cell.col⟩ := by
  obtain ⟨sheet, row, col⟩ := header
  obtain ⟨hsheet, hrow, hcol⟩ := hheader
  have hindex := h.headerIndex_add_one
  dsimp only at hsheet hrow hcol
  rw [hsheet, hcol, show row = t.headerIndex by omega]

/-- **The override of a cell is what stands for it.** -/
theorem overrideOf_eq_of_standsFor (hlayout : src.layout.Usable) (h : src.StandsFor cell o) :
    src.overrideOf cell = o := by
  cases h with
  | label hlabel => exact if_pos hlabel
  | elsewhere hlabel hdata =>
    unfold overrideOf
    rw [if_neg hlabel, if_pos (by simpa using hdata)]
  | constant hdata hconstant =>
    rw [overrideOf_of_onData hdata, if_pos (constantAt_iff.mpr hconstant)]
  | getter hdata hconstant hgetter =>
    rw [← constantAt_iff] at hconstant
    obtain ⟨text, hfind⟩ := getterAt_iff.mpr hgetter
    rw [overrideOf_of_onData hdata, if_neg hconstant, hfind]
  | @event t header thread hunclaimed ht hcell hheader hname hthread =>
    have husable := hlayout.eventTable t ht
    have hsame : t.thread cell.row = thread := by
      have hexact : t.thread cell.row + t.headerRow = cell.row :=
        husable.thread_add_headerRow hcell
      omega
    obtain ⟨c, hc, hsolid⟩ := hname
    rw [hheader.eq husable] at hc ⊢
    rw [overrideOf_of_unclaimed hunclaimed, eventAt_of_mem ht hcell, hsame]
    refine if_neg ?_
    rw [Text.isEmpty_trim_iff]
    intro hblank
    rw [hblank c hc] at hsolid
    cases hsolid
  | @unnamed t header hunclaimed ht hcell hheader hblank =>
    rw [hheader.eq (hlayout.eventTable t ht)] at hblank ⊢
    rw [overrideOf_of_unclaimed hunclaimed, eventAt_of_mem ht hcell]
    exact if_pos (Text.isEmpty_trim_iff.mpr hblank)
  | plain hunclaimed houtside =>
    rw [overrideOf_of_unclaimed hunclaimed, eventAt_of_notMem houtside]

/-- Something stands for every cell of the rectangle that nothing else claims, or it is an event
without a name. -/
theorem exists_standsFor_of_mem (husable : t.Usable) (hunclaimed : src.Unclaimed cell)
    (ht : src.layout.eventTable = some t) (hcell : cell.position ∈ t.cells) :
    ∃ o, src.StandsFor cell o := by
  have hheader : EventHeader t cell ⟨cell.sheet, t.headerIndex, cell.col⟩ :=
    ⟨rfl, husable.headerIndex_add_one, rfl⟩
  by_cases hblank : ∀ c ∈ (src.workbook.value ⟨cell.sheet, t.headerIndex, cell.col⟩).display.toList,
      isBlank c
  · exact ⟨_, .unnamed hunclaimed ht hcell hheader hblank⟩
  · push Not at hblank
    obtain ⟨c, hc, hsolid⟩ := hblank
    have hthread : (t.thread cell.row : Int) = (cell.row + 1 : Int) - t.headerRow - 1 := by
      have hexact : t.thread cell.row + t.headerRow = cell.row :=
        husable.thread_add_headerRow hcell
      omega
    exact ⟨_, .event hunclaimed ht hcell hheader ⟨c, hc, Bool.eq_false_iff.mpr hsolid⟩ hthread⟩

/-- **The cases are all there are.** -/
theorem exists_standsFor (hlayout : src.layout.Usable) (cell : Address) :
    ∃ o, src.StandsFor cell o := by
  by_cases hlabel : Text.sameFold cell.sheet src.layout.labelSheet
  · exact ⟨_, .label hlabel⟩
  by_cases hdata : Text.sameFold cell.sheet src.layout.dataSheet
  · have hon : src.OnData cell := ⟨hlabel, hdata⟩
    by_cases hconstant : src.ConstantAt cell.position
    · exact ⟨_, .constant hon hconstant⟩
    by_cases hgetter : ∃ g, src.GetterAt cell.position g
    · obtain ⟨g, hg⟩ := hgetter
      exact ⟨_, .getter hon hconstant hg⟩
    have hunclaimed : src.Unclaimed cell := ⟨hon, hconstant, fun g hg => hgetter ⟨g, hg⟩⟩
    by_cases hinside : ∃ t ∈ src.layout.eventTable, cell.position ∈ t.cells
    · obtain ⟨t, ht, hcell⟩ := hinside
      exact exists_standsFor_of_mem (hlayout.eventTable t ht) hunclaimed ht hcell
    · exact ⟨_, .plain hunclaimed fun t ht hcell => hinside ⟨t, ht, hcell⟩⟩
  · exact ⟨_, .elsewhere hlabel hdata⟩

/-- An event counter is that of a cell in the rectangle, and its thread is the number of rows between
the cell and the header row. -/
theorem exists_of_overrideOf_event (hlayout : src.layout.Usable) {name : String} {thread : Nat}
    (h : src.overrideOf cell = .ok (some (.event name thread))) :
    ∃ t ∈ src.layout.eventTable, cell.position ∈ t.cells ∧ thread + t.headerRow = cell.row := by
  obtain ⟨o, ho⟩ := exists_standsFor hlayout cell
  obtain rfl := (overrideOf_eq_of_standsFor hlayout ho).symm.trans h
  cases ho with
  | @event t _ _ _ ht hcell _ _ hthread =>
    refine ⟨t, ht, hcell, ?_⟩
    omega

end Source

/-- **The override of a cell is what stands for it.**  On the label sheet this is what the cell shows,
and on no other sheet but the data sheet there is anything.  On the data sheet it is the value of the
cell if a constant is written for it in any spelling, else the getter of the first accessor that is
written for it, else, in the rectangle of event counters, the event named in the header row, or an
error exactly if nothing but blanks stands there.  Threads are counted from the row below the header
row on, and no difference of rows is cut off.  So a thread is less than the number of rows from the
header row to the last, cells on different rows have different threads, and the header row lies above
the rectangle. -/
theorem Source.overrideOf_eq_iff (src : Source) (hcheck : src.layout.check = .ok ())
    (cell : Address) :
    (∀ o, src.overrideOf cell = o ↔ src.StandsFor cell o) ∧
      ∀ name thread, src.overrideOf cell = .ok (some (.event name thread)) →
        ∃ t ∈ src.layout.eventTable, cell.position ∈ t.cells ∧
          (thread : Int) < (t.lastRow : Int) - t.headerRow ∧
          (∀ p ∈ t.cells, t.headerRow < p.row + 1) ∧
          ∀ other name' thread', src.overrideOf other = .ok (some (.event name' thread')) →
            other.row ≠ cell.row → thread' ≠ thread := by
  have hlayout := Layout.check_eq_ok_iff.mp hcheck
  constructor
  · intro o
    constructor
    · rintro rfl
      obtain ⟨o, ho⟩ := Source.exists_standsFor hlayout cell
      rwa [Source.overrideOf_eq_of_standsFor hlayout ho]
    · exact Source.overrideOf_eq_of_standsFor hlayout
  · intro name thread hevent
    obtain ⟨t, ht, hcell, hthread⟩ := Source.exists_of_overrideOf_event hlayout hevent
    refine ⟨t, ht, hcell, ?_, fun p => (hlayout.eventTable t ht).headerRow_lt_of_mem, ?_⟩
    · have hlast : cell.row + 1 ≤ t.lastRow := hcell.1.2
      omega
    · intro other name' thread' hother hrow
      obtain ⟨t', ht', -, hthread'⟩ := Source.exists_of_overrideOf_event hlayout hother
      -- there is one table for both
      obtain rfl := Option.some.inj (ht.symm.trans ht')
      omega

/-- A data sheet with a rectangle of two rows and three columns, one of them without a name, in which
two cells have a meaning of their own. -/
def counterTable : Source where
  workbook := { sheets := [
    ((Sheet.new "data").setValue ⟨1, 1⟩ (.text "CYCLES")).setValue ⟨1, 2⟩ (.text "LOADS")] }
  layout := {
    constants := ["$b$4"]
    accessors := [("B5", .nodeName)]
    eventTable := some ⟨2, 4, 5, "B", "d"⟩ }

/-- The second thread of an event, a cell without a name, and the two other cells. -/
theorem Source.overrideOf_eq_iff_counterTable :
    counterTable.layout.check = .ok () ∧
      counterTable.StandsFor ⟨"DATA", 3, 2⟩ (.ok (some (.event "LOADS" 1))) ∧
      counterTable.StandsFor ⟨"data", 3, 3⟩ (.error ⟨"data!D4", .emptyHeader ⟨"data", 1, 3⟩⟩) ∧
      counterTable.StandsFor ⟨"data", 3, 1⟩ (.ok (some (.constant .empty))) ∧
      counterTable.StandsFor ⟨"data", 4, 1⟩ (.ok (some (.getter .nodeName))) ∧
      ∃ t ∈ counterTable.layout.eventTable, (1 : Int) < (t.lastRow : Int) - t.headerRow := by
  obtain ⟨hcheck, hevent, hunnamed, hconstant, hgetter⟩ : counterTable.layout.check = .ok () ∧
      counterTable.overrideOf ⟨"DATA", 3, 2⟩ = .ok (some (.event "LOADS" 1)) ∧
      counterTable.overrideOf ⟨"data", 3, 3⟩ =
        .error ⟨"data!D4", .emptyHeader ⟨"data", 1, 3⟩⟩ ∧
      counterTable.overrideOf ⟨"data", 3, 1⟩ = .ok (some (.constant .empty)) ∧
      counterTable.overrideOf ⟨"data", 4, 1⟩ = .ok (some (.getter .nodeName)) := by decide +kernel
  have hcases (cell : Address) := Source.overrideOf_eq_iff counterTable hcheck cell
  refine ⟨hcheck, ((hcases _).1 _).mp hevent, ((hcases _).1 _).mp hunnamed,
    ((hcases _).1 _).mp hconstant, ((hcases _).1 _).mp hgetter, ?_⟩
  obtain ⟨t, ht, -, hlt, -⟩ := (hcases _).2 _ _ hevent
  exact ⟨t, ht, hlt⟩

end ReportCompiler
