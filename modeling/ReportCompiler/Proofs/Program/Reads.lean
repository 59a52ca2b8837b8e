import ReportCompiler.Program.Assemble
import ReportCompiler.Proofs.Session.Lockstep
import ReportCompiler.Proofs.Workbook.Frame

/-!
# What is read of a workbook

A spreadsheet keeps the value that it last computed for a formula, and a cell with an override may
have a formula all the same.  Neither is looked at.  Two workbooks with the same frame that agree on
what is read give the same program, or the same error.

## Main definitions

* `Entry.captions` - the coordinates from which an entry takes its labels.
* `Source.ReadsValue` - the cells whose value is read.
* `Source.SameReads` - two sources that agree on everything that is read.

## Main results

* `SameReads.overrideOf`, `SameReads.exprOf`, `SameReads.ensureWithin` - **agreement on what is read
  passes through the walk of a session**, as long as it may go equally deep.
* `SameReads.inStep_outputs` - and through the outputs, whatever the depths are.
* `compile_eq_of_sameReads` - sources that agree on what is read compile to the same.
-/

namespace ReportCompiler

open Formula SessionM

/-- The coordinates on the sheet of the report from which an entry takes its labels. -/
def Entry.captions : Entry → List String
  | .single path label _ => path ++ [label]
  | .table path firstColumn lastColumn headerRow _ _ =>
    path ++ ((columnRange? firstColumn lastColumn).getD []).map (coordinateText · headerRow)

/-- The value is the variable of a cell, or the variables of several cells. -/
def OutputValue.OfCells : OutputValue → Prop
  | single var => ∃ c : Address, var = c.variableName
  | column vars => ∀ var ∈ vars, ∃ c : Address, var = c.variableName

namespace Source

/-- The cells whose value is read: labels, constants, the headers of the event table, the labels of
the entries, and cells with neither override nor formula. -/
inductive ReadsValue (src : Source) (cell : Address) : Prop
  /-- The cell is on the label sheet. -/
  | label (hlabel : Text.sameFold cell.sheet src.layout.labelSheet)
  /-- The cell is a constant of the data sheet. -/
  | constant (hdata : Text.sameFold cell.sheet src.layout.dataSheet) {coord : String}
    (hmem : coord ∈ src.layout.constants) (hcoord : coordinate? coord = some cell.position)
  /-- The cell is in the header row of the data sheet, above a column of the event table. -/
  | header (hdata : Text.sameFold cell.sheet src.layout.dataSheet) {table : EventTable}
    (htable : src.layout.eventTable = some table) (hrow : cell.row = table.headerIndex) {row : Nat}
    (hcol : table.contains ⟨row, cell.col⟩)
  /-- The cell is on the sheet of the report, and an entry takes a label from it. -/
  | caption {sheet : Sheet} (hsheet : src.workbook.sheet? src.layout.defaultSheet = some sheet)
    (htitle : cell.sheet = sheet.name) {entry : Entry} (hentry : entry ∈ src.layout.entries)
    {coord : String} (hmem : coord ∈ entry.captions)
    (hcoord : coordinate? coord = some cell.position)
  /-- The cell has neither override nor formula. -/
  | content (hover : src.overrideOf cell = .ok none)
    (hformula : src.workbook.formula? cell = none)

/-- The two sources have one layout, their workbooks have the same frame, and they agree on the
formulas of cells without override and on the values that are read. -/
structure SameReads (src src' : Source) : Prop where
  /-- There is one layout. -/
  layout : src'.layout = src.layout
  /-- Sheets, merged regions and defined names are the same. -/
  frame : src.workbook.SameFrame src'.workbook
  /-- Formulas are the same where there is no override. -/
  formula (cell : Address) (hover : src.overrideOf cell = .ok none) :
    src'.workbook.formula? cell = src.workbook.formula? cell
  /-- Values are the same where they are read. -/
  value (cell : Address) (hreads : src.ReadsValue cell) :
    src'.workbook.value cell = src.workbook.value cell

namespace SameReads

variable {src src' : Source}

theorem refl (src : Source) : src.SameReads src :=
  ⟨rfl, .refl _, fun _ _ => rfl, fun _ _ => rfl⟩

/-! ### Overrides -/

theorem eventAt (h : src.SameReads src') {cell : Address}
    (hdata : Text.sameFold cell.sheet src.layout.dataSheet) :
    src'.eventAt cell = src.eventAt cell := by
  unfold Source.eventAt
  rw [h.layout]
  cases htable : src.layout.eventTable with
  | none => rfl
  | some table =>
    by_cases hcontains : table.contains cell.position
    · -- the name of the event is read from the header of its column
      have hheader : src.ReadsValue ⟨cell.sheet, table.headerIndex, cell.col⟩ :=
        .header hdata htable rfl hcontains
      simp only [h.value _ hheader]
    · simp only [if_neg hcontains]

/-- **The override of a cell is the same.** -/
theorem overrideOf (h : src.SameReads src') (cell : Address) :
    src'.overrideOf cell = src.overrideOf cell := by
  unfold Source.overrideOf
  rw [h.layout]
  by_cases hlabel : Text.sameFold cell.sheet src.layout.labelSheet
  · rw [if_pos hlabel, if_pos hlabel, h.value cell (.label hlabel)]
  rw [if_neg hlabel, if_neg hlabel]
  by_cases hdata : Text.sameFold cell.sheet src.layout.dataSheet
  · rw [h.eventAt hdata]
    by_cases hconstant : src.layout.constants.any fun c => coordinate? c == some cell.position
    · obtain ⟨coord, hmem, hcoord⟩ := List.any_eq_true.mp hconstant
      rw [h.value cell (.constant hdata hmem (by simpa using hcoord))]
    · simp only [hconstant]
      rfl
  · simp only [hdata]
    rfl

/-- The same values are read on both sides. -/
theorem readsValue (h : src.SameReads src') {cell : Address} (hreads : src'.ReadsValue cell) :
    src.ReadsValue cell := by
  cases hreads with
  | label hlabel => exact .label (h.layout ▸ hlabel)
  | constant hdata hmem hcoord => exact .constant (h.layout ▸ hdata) (h.layout ▸ hmem) hcoord
  | header hdata htable hrow hcol => exact .header (h.layout ▸ hdata) (h.layout ▸ htable) hrow hcol
  | caption hsheet htitle hentry hmem hcoord =>
    rw [h.layout] at hsheet hentry
    rcases h.frame.sheet?_cases src.layout.defaultSheet with ⟨-, hs'⟩ | ⟨s, s', hs, hs', hname, -⟩
    · rw [hs'] at hsheet
      cases hsheet
    · obtain rfl := Option.some.inj (hs'.symm.trans hsheet)
      exact .caption hs (htitle.trans hname) hentry hmem hcoord
  | content hover hformula =>
    rw [h.overrideOf] at hover
    exact .content hover ((h.formula cell hover).symm.trans hformula)

theorem symm (h : src.SameReads src') : src'.SameReads src where
  layout := h.layout.symm
  frame := h.frame.symm
  formula cell hover := (h.formula cell (h.overrideOf cell ▸ hover)).symm
  value cell hreads := (h.value cell (h.readsValue hreads)).symm

/-! ### The walk -/

theorem exprOf (h : src.SameReads src') (resolve : String → SessionM Expr) (cell : Address) :
    src'.exprOf resolve cell = src.exprOf resolve cell := by
  unfold Source.exprOf
  rw [h.overrideOf, h.layout]
  rcases hover : src.overrideOf cell with why | _ | o
  · rfl
  · -- the value is read only when there is no formula
    simp only [h.formula cell hover]
    cases hformula : src.workbook.formula? cell with
    | some formula => rfl
    | none => rw [h.value cell (.content hover hformula)]
  · rfl

theorem member (h : src.SameReads src') (ensure : Address → SessionM String) :
    src'.member ensure = src.member ensure := by
  funext cell
  unfold Source.member
  rw [h.overrideOf, h.layout]

theorem operandWith (h : src.SameReads src') (ensure : Address → SessionM String) :
    src'.operandWith ensure = src.operandWith ensure := by
  funext reference
  unfold Source.operandWith
  simp only [h.layout, h.frame.resolve, h.member]

theorem visit (h : src.SameReads src') (translate : Address → SessionM Expr) :
    src'.visit translate = src.visit translate := by
  funext cell s
  -- of the kind of a cell only counts whether it is covered
  have henter : s.enter cell (src'.workbook.kind cell) = s.enter cell (src.workbook.kind cell) := by
    simp only [Session.enter, h.frame.merged_iff]
  unfold Source.visit
  rw [henter]

/-- **The walks go in lock step**, as long as they may go equally deep. -/
theorem ensureWithin (h : src.SameReads src') (depth : Nat) :
    src'.ensureWithin depth = src.ensureWithin depth := by
  induction depth with
  | zero => rfl
  | succ depth ih =>
    have hexpr : src'.exprOf (src'.operandWith (src'.ensureWithin depth)) =
        src.exprOf (src.operandWith (src.ensureWithin depth)) := by
      funext cell
      rw [h.operandWith, ih, h.exprOf]
    rw [ensureWithin_succ, ensureWithin_succ, hexpr, h.visit]

theorem canonical (h : src.SameReads src') (cell : Address) :
    src'.canonical cell = src.canonical cell := by
  unfold Source.canonical
  rcases h.frame.sheet?_cases cell.sheet with ⟨hs, hs'⟩ | ⟨s, s', hs, hs', hname, -⟩
  · simp only [hs, hs']
  · simp only [hs, hs', hname]

/-! ### Outputs -/

section

variable (h : src.SameReads src') (hdepth : src.depthBound ≤ src'.depthBound)

include h hdepth

/-- **Requests for a cell go in lock step**, when the second walk may go at least as deep as the
first. -/
theorem inStep_ensure (a : Address) :
    InStep src (fun n => ∃ c : Address, n = c.variableName) (src.ensure a) (src'.ensure a) := by
  intro s hidle
  have hcanonical := h.canonical a
  obtain ⟨cells, hsound⟩ := hidle.sound
  obtain ⟨after, hgrown, hname⟩ := does_ensure (T := fun c => src.workbook.HasTitle c.sheet)
    (fun _ _ _ hab => hab.hasTitle) hsound hidle.chain fun c hc => hasTitle_of_canonical hc
  refine ⟨?_, hidle.of_grown hgrown, ?_⟩
  · rcases hcanon : src.canonical a with why | c
    · rw [hcanon] at hcanonical
      rw [ensure_error hcanon, ensure_error hcanonical]
    · rw [hcanon] at hcanonical
      have hwalk : src'.ensureWithin src'.depthBound c s = src.ensureWithin src.depthBound c s := by
        rw [h.ensureWithin, ensureWithin_eq_of_le hidle (hasTitle_of_canonical hcanon) hdepth]
      rw [ensure_ok hcanon, ensure_ok hcanonical, hwalk]
  · intro n hn
    obtain ⟨c, -, hn, -⟩ := hname n hn
    exact ⟨c, hn⟩

theorem inStep_ensureColumn (first : Address) (rows : Nat) :
    InStep src (fun vars => ∀ var ∈ vars, ∃ c : Address, var = c.variableName)
      (src.ensureColumn first rows) (src'.ensureColumn first rows) :=
  .mapM fun i _ => h.inStep_ensure hdepth (first.below i)

theorem inStep_columnValue (first : Address) (rows : Nat) :
    InStep src OutputValue.OfCells (src.columnValue first rows) (src'.columnValue first rows) := by
  unfold columnValue
  simp only [h.frame.merged_iff]
  split
  · exact (h.inStep_ensure hdepth first).bind fun var hvar => inStep_pure hvar
  · refine (h.inStep_ensureColumn hdepth first rows).bind fun members hmembers => ?_
    exact (h.inStep_ensure hdepth _).bind fun _ _ => inStep_pure hmembers

end

/-- A label that an entry takes from the sheet of the report is the same. -/
theorem labelAt (h : src.SameReads src') {sheet : Sheet}
    (hsheet : src.workbook.sheet? src.layout.defaultSheet = some sheet) {entry : Entry}
    (hentry : entry ∈ src.layout.entries) {coord : String} (hcoord : coord ∈ entry.captions) :
    src'.labelAt sheet.name coord = src.labelAt sheet.name coord := by
  unfold Source.labelAt cellAt
  cases hposition : coordinate? coord with
  | none => rfl
  | some p =>
    have hreads : src.ReadsValue (.ofPosition sheet.name p) :=
      .caption hsheet rfl hentry hcoord hposition
    simp only [Except.map, h.value _ hreads]

theorem mapM_labelAt (h : src.SameReads src') {sheet : Sheet}
    (hsheet : src.workbook.sheet? src.layout.defaultSheet = some sheet) {entry : Entry}
    (hentry : entry ∈ src.layout.entries) {path : List String}
    (hpath : ∀ coord ∈ path, coord ∈ entry.captions) :
    path.mapM (src'.labelAt sheet.name) = path.mapM (src.labelAt sheet.name) := by
  induction path with
  | nil => rfl
  | cons coord rest ih =>
    obtain ⟨hcoord, hrest⟩ := List.forall_mem_cons.mp hpath
    rw [List.mapM_cons, List.mapM_cons, h.labelAt hsheet hentry hcoord, ih hrest]

section

variable (h : src.SameReads src') (hdepth : src.depthBound ≤ src'.depthBound)
  {sheet : Sheet} (hsheet : src.workbook.sheet? src.layout.defaultSheet = some sheet)

include h hdepth hsheet

theorem inStep_columnOutput {entry : Entry} (hentry : entry ∈ src.layout.entries)
    {headerRow col : Nat} (hcol : coordinateText col headerRow ∈ entry.captions)
    (path : List String) (firstRow rows : Nat) :
    InStep src (fun o => o.value.OfCells)
      (src.columnOutput sheet.name path headerRow firstRow rows col)
      (src'.columnOutput sheet.name path headerRow firstRow rows col) := by
  unfold columnOutput
  rw [h.labelAt hsheet hentry hcol]
  refine (inStep_ofExcept _).bind fun label _ => (inStep_ofExcept _).bind fun first _ => ?_
  exact (h.inStep_columnValue hdepth first rows).bind fun value hvalue => inStep_pure hvalue

theorem inStep_entryOutputs {entry : Entry} (hentry : entry ∈ src.layout.entries) :
    InStep src (fun os => ∀ o ∈ os, o.value.OfCells) (src.entryOutputs sheet.name entry)
      (src'.entryOutputs sheet.name entry) := by
  cases entry with
  | single path label value =>
    have hpath : ∀ coord ∈ path, coord ∈ (Entry.single path label value).captions := fun _ hmem =>
      List.mem_append_left _ hmem
    have hlabel : label ∈ (Entry.single path label value).captions :=
      List.mem_append_right _ (List.mem_singleton.mpr rfl)
    rw [entryOutputs, entryOutputs, h.mapM_labelAt hsheet hentry hpath,
      h.labelAt hsheet hentry hlabel]
    refine (inStep_ofExcept _).bind fun a _ => (h.inStep_ensure hdepth a).bind fun var hvar => ?_
    refine (inStep_ofExcept _).bind fun path _ => (inStep_ofExcept _).bind fun label _ => ?_
    exact inStep_pure (List.forall_mem_singleton.mpr hvar)
  | table path firstColumn lastColumn headerRow firstRow rows =>
    rw [entryOutputs, entryOutputs]
    cases hcolumns : columnRange? firstColumn lastColumn with
    | none => exact inStep_throw _
    | some columns =>
      have hcaptions :
          (Entry.table path firstColumn lastColumn headerRow firstRow rows).captions =
            path ++ columns.map (coordinateText · headerRow) := by
        rw [Entry.captions, hcolumns, Option.getD_some]
      have hpath : ∀ coord ∈ path, coord ∈
          (Entry.table path firstColumn lastColumn headerRow firstRow rows).captions := by
        intro coord hmem
        rw [hcaptions]
        exact List.mem_append_left _ hmem
      simp only [h.mapM_labelAt hsheet hentry hpath]
      refine (inStep_ofExcept _).bind fun path' _ => .mapM fun col hcol => ?_
      refine h.inStep_columnOutput hdepth hsheet hentry ?_ path' firstRow rows
      rw [hcaptions]
      exact List.mem_append_right _ (List.mem_map.mpr ⟨col, hcol, rfl⟩)

end

/-- **The outputs go in lock step**, and they are variables of cells. -/
theorem inStep_outputs (h : src.SameReads src') (hdepth : src.depthBound ≤ src'.depthBound) :
    InStep src (fun os => ∀ o ∈ os, o.value.OfCells) src.outputs src'.outputs := by
  unfold outputs
  rw [h.layout]
  rcases h.frame.sheet?_cases src.layout.defaultSheet with ⟨hs, hs'⟩ | ⟨s, s', hs, hs', hname, -⟩
  · simp only [hs, hs']
    exact inStep_throw _
  · simp only [hs, hs', hname]
    have hentries := InStep.mapM fun entry hentry => h.inStep_entryOutputs hdepth hs hentry
    refine hentries.bind fun os hos => inStep_pure ?_
    intro o ho
    obtain ⟨part, hpart, hmem⟩ := List.mem_flatten.mp ho
    exact hos part hpart o hmem

/-- Sources that agree on what is read compile to the same, when the second has at least as many
formulas as the first. -/
theorem compile_of_le (h : src.SameReads src') (hdepth : src.depthBound ≤ src'.depthBound)
    (name : String) : src'.compile name = src.compile name := by
  have hrun : src.outputs.run {} = src'.outputs.run {} :=
    (h.inStep_outputs hdepth {} .fresh).1
  unfold compile
  rw [hrun, h.layout]

end SameReads

end Source

/-- **A program depends on nothing but what is read.**  Two workbooks with the same sheets, merged
regions and defined names may differ in the formulas of cells with an override, and in all values
but those of labels, constants, event headers, the labels of the entries, and cells with neither
formula nor override.  With the same layout and name they compile to the same program, the same
counts and the same warnings, or they fail with the same error. -/
theorem compile_eq_of_sameReads (src src' : Source) (h : src.SameReads src') (name : String) :
    src.compile name = src'.compile name := by
  -- the depths of the two walks are bounded by the numbers of formulas, of which one is the larger
  rcases Nat.le_total src.depthBound src'.depthBound with hdepth | hdepth
  · exact (h.compile_of_le hdepth name).symm
  · exact h.symm.compile_of_le hdepth name

/-- A report on one sheet, which is also that of the data.  The value last computed for its formula
is not read, nor what stands in the cell of the node name, to which the formula refers. -/
def nodeReport (computed : CellValue) (node : Cell) : Source where
  workbook := { sheets := [(((Sheet.new "report").setCell ⟨0, 0⟩ ⟨.text "Node", none⟩).setCell
    ⟨0, 1⟩ ⟨computed, some "=C1"⟩).setCell ⟨0, 2⟩ node] }
  layout :=
    { dataSheet := "report", accessors := [("C1", .nodeName)], entries := [.single [] "A1" "B1"] }

theorem Workbook.cell?_singleton (s : Sheet) (cell : Address) :
    (⟨[s], {}⟩ : Workbook).cell? cell =
      if Text.sameFold s.name cell.sheet then s.cell? cell.position else none := by
  have hsheet : (⟨[s], {}⟩ : Workbook).sheet? cell.sheet =
      if Text.sameFold s.name cell.sheet then some s else none := by
    by_cases hname : s.name = cell.sheet
    · simp [Workbook.sheet?, hname, Text.sameFold_self]
    · simp [Workbook.sheet?, hname, List.find?_singleton]
  rw [Workbook.cell?, hsheet]
  split <;> rfl

theorem Workbook.value_eq_cell? (wb : Workbook) (cell : Address) :
    wb.value cell = ((wb.cell? cell).map Cell.value).getD .empty := by
  unfold Workbook.value Workbook.cell?
  cases wb.sheet? cell.sheet with
  | none => rfl
  | some s =>
    simp only [Option.bind_some, Sheet.value]
    cases s.cell? cell.position <;> rfl

theorem sameReads_nodeReport (computed computed' : CellValue) (node node' : Cell) :
    (nodeReport computed node).SameReads (nodeReport computed' node') := by
  have hcell (computed : CellValue) (node : Cell) (cell : Address) :
      (nodeReport computed node).workbook.cell? cell =
        if Text.sameFold "report" cell.sheet then
          if cell.position = ⟨0, 2⟩ then some node
          else if cell.position = ⟨0, 1⟩ then some ⟨computed, some "=C1"⟩
          else if cell.position = ⟨0, 0⟩ then some ⟨.text "Node", none⟩ else none
        else none := by
    rw [nodeReport, Workbook.cell?_singleton]
    simp only [Sheet.cell?_setCell]
    rfl
  -- no title is equal to both, up to case
  have hlabel {title : String} (hreport : Text.sameFold "report" title) :
      Text.sameFold title "label" = false := by
    simp only [Text.sameFold, beq_iff_eq] at hreport
    rw [Text.sameFold, ← hreport]
    decide
  have hover {cell : Address} (hreport : Text.sameFold "report" cell.sheet)
      (hposition : cell.position = ⟨0, 2⟩) :
      (nodeReport computed node).overrideOf cell ≠ .ok none := by
    have hcoord : coordinate? "C1" = some ⟨0, 2⟩ := by decide
    have hdata : Text.sameFold cell.sheet "report" := Text.sameFold_comm _ _ ▸ hreport
    simp [Source.overrideOf, nodeReport, hlabel hreport, hdata, hposition, hcoord]
  refine ⟨rfl, ⟨rfl, fun _ => rfl⟩, ?_, ?_⟩
  · intro cell hnone
    rw [Workbook.formula?, Workbook.formula?, hcell, hcell]
    grind
  · intro cell hreads
    rw [Workbook.value_eq_cell?, Workbook.value_eq_cell?, hcell, hcell]
    cases hreads with
    | label htitle =>
      have hreport : ¬ Text.sameFold "report" cell.sheet := fun hreport =>
        Bool.false_ne_true ((hlabel hreport).symm.trans htitle)
      rw [if_neg hreport, if_neg hreport]
    | constant _ hmem => cases hmem
    | header _ htable => cases htable
    | caption _ _ hentry hmem hcoord =>
      have hcaption : coordinate? "A1" = some ⟨0, 0⟩ := by decide
      obtain rfl := List.mem_singleton.mp hentry
      obtain rfl := List.mem_singleton.mp hmem
      have hposition : cell.position = ⟨0, 0⟩ := Option.some.inj (hcoord.symm.trans hcaption)
      simp [hposition]
    | content hnone hformula =>
      rw [Workbook.formula?, hcell] at hformula
      grind

/-- The walks may go to different depths, for the second workbook has one more formula. -/
theorem compile_eq_of_sameReads_nodeReport :
    let src := nodeReport (.text "n1") ⟨.text "n1", none⟩
    let src' := nodeReport (.error "#REF!") ⟨.boolean true, some "=B1"⟩
    src.SameReads src' ∧ src.workbook.formulaCount = 1 ∧ src'.workbook.formulaCount = 2 ∧
      src.compile "book.xlsx" = src'.compile "book.xlsx" ∧
      (src.compile "book.xlsx").toOption.map Compiled.instructionCount = some 1 := by
  intro src src'
  have hreads : src.SameReads src' := sameReads_nodeReport _ _ _ _
  exact ⟨hreads, by decide +kernel, by decide +kernel,
    compile_eq_of_sameReads src src' hreads "book.xlsx", by decide +kernel⟩

end ReportCompiler
