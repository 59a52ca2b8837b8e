import ReportCompiler.Proofs.Cell.Coordinates
import ReportCompiler.Proofs.Session.Order
import ReportCompiler.Program.Output

/-!
# Layouts expanded

The outputs of a report come out of a walk that compiles cells as it goes.  What they are can be
said without the walk, by positions alone: an entry for one value gives one output, and a table gives
one for each of its columns, from left to right.  The walk adds that the variables in the outputs are
bound, and that the total below the members of a column is compiled with them.

## Main definitions

* `Workbook.caption?` - the text shown in the cell at a coordinate.
* `Workbook.columnExport` - what a column of a table exports.
* `Entry.expand?`, `Layout.expand?` - the outputs of an entry and of a layout.
* `Entry.totals`, `Layout.totals` - the cells just below the members of the columns.

## Main results

* `coordinate?_coordinateText` - a column and a row written as text are read back.
* `SessionM.Does.mapM` - work on the members of a list, one after the other.
* `does_columnOutput`, `does_entryOutputs` - the work on a column and on an entry.
* `outputs_expand` - **the outputs are the entries of the layout expanded in order**, their variables
  are bound by instructions, and so are those of the totals.
-/

namespace ReportCompiler

open SessionM

/-! ### Expansion by positions -/

/-- The variables that are recorded. -/
def OutputValue.variables : OutputValue → List String
  | single var => [var]
  | column vars => vars

namespace Workbook

/-- The text shown in the cell at a coordinate. -/
def caption? (wb : Workbook) (sheet coord : String) : Option String :=
  (coordinate? coord).map fun p => (wb.value ⟨sheet, p.row, p.col⟩).display

/-- A merged region goes on below the cell. -/
def mergedBelow (wb : Workbook) (first : Address) : Bool :=
  wb.kind { first with row := first.row + 1 } = .merged

/-- What a column of a table exports: the variable of its first cell when a merged region goes on
below it, and else those of `rows` cells from the first one on. -/
def columnExport (wb : Workbook) (first : Address) (rows : Nat) : OutputValue :=
  if wb.mergedBelow first then .single first.variableName
  else .column ((List.range' first.row rows).map fun row => { first with row }.variableName)

end Workbook

/-- The columns from the first to the last, both included, from left to right. -/
def tableColumns? (firstColumn lastColumn : String) : Option (List Nat) := do
  let first ← column? firstColumn.toList
  let last ← column? lastColumn.toList
  return List.range' first (last + 1 - first)

namespace Entry

/-- The outputs of an entry, on the sheet of the report.  Rows of the layout are counted from one,
and those of addresses from zero. -/
def expand? (wb : Workbook) (sheet : String) : Entry → Option (List Output)
  | .single path label value => do
    let p ← coordinate? value
    let path ← path.mapM (wb.caption? sheet)
    let label ← wb.caption? sheet label
    return [⟨path, label, .single (Address.variableName ⟨sheet, p.row, p.col⟩)⟩]
  | .table path firstColumn lastColumn headerRow firstRow rows => do
    let columns ← tableColumns? firstColumn lastColumn
    let path ← path.mapM (wb.caption? sheet)
    return columns.map fun col =>
      ⟨path, (wb.value ⟨sheet, headerRow - 1, col⟩).display,
        wb.columnExport ⟨sheet, firstRow - 1, col⟩ rows⟩

/-- The cells just below the members of the columns, but for columns that are merged. -/
def totals (wb : Workbook) (sheet : String) : Entry → List Address
  | .single _ _ _ => []
  | .table _ firstColumn lastColumn _ firstRow rows =>
    let columns := (tableColumns? firstColumn lastColumn).getD []
    (columns.filter fun col => !wb.mergedBelow ⟨sheet, firstRow - 1, col⟩).map fun col =>
      ⟨sheet, firstRow - 1 + rows, col⟩

end Entry

namespace Layout

/-- The outputs of a layout: those of its entries, in order. -/
def expand? (layout : Layout) (wb : Workbook) : Option (List Output) := do
  let sheet ← wb.sheet? layout.defaultSheet
  return (← layout.entries.mapM (Entry.expand? wb sheet.name)).flatten

/-- The cells just below the members of the columns of all tables. -/
def totals (layout : Layout) (wb : Workbook) : List Address :=
  match wb.sheet? layout.defaultSheet with
  | none => []
  | some sheet => layout.entries.flatMap (Entry.totals wb sheet.name)

end Layout

/-! ### Coordinates and captions -/

/-- A column and a row written as text are read back, with the row counted from zero. -/
theorem coordinate?_coordinateText {col : Nat} (h : col < maxColumns) (row : Nat) :
    coordinate? (coordinateText col row) =
      if row = 0 || maxRows < row then none else some ⟨row - 1, col⟩ := by
  have hletters := isAlpha_columnLetters col
  have hdigits := Decimal.isDigit_toDigits row
  have hchars := Text.isCoordinateChar_append hletters hdigits
  have hplain := Text.filter_dollar_append hletters hdigits
  rw [coordinateText, coordinate?_ofList hchars hplain hletters hdigits Nat.toDigits_ne_nil,
    column?_columnLetters h, Decimal.ofDigits_toDigits]
  rfl

theorem eq_of_cellAt {sheet coord : String} {a : Address} (h : cellAt sheet coord = .ok a) :
    ∃ p, coordinate? coord = some p ∧ a = ⟨sheet, p.row, p.col⟩ := by
  unfold cellAt at h
  split at h
  · next p hp => exact ⟨p, hp, (Except.ok.inj h).symm⟩
  · cases h

/-- The cell of a table at a column and a row counted from one. -/
theorem eq_of_cellAt_coordinateText {sheet : String} {col row : Nat} {a : Address}
    (hcol : col < maxColumns) (h : cellAt sheet (coordinateText col row) = .ok a) :
    a = ⟨sheet, row - 1, col⟩ := by
  obtain ⟨p, hp, rfl⟩ := eq_of_cellAt h
  rw [coordinate?_coordinateText hcol, Option.ite_none_left_eq_some] at hp
  rw [← Option.some.inj hp.2]

namespace Source

variable {src : Source} {sheet : String}

theorem exists_cellAt_of_labelAt {coord text : String} (h : src.labelAt sheet coord = .ok text) :
    ∃ a, cellAt sheet coord = .ok a ∧ (src.workbook.value a).display = text := by
  unfold labelAt at h
  cases hcell : cellAt sheet coord with
  | error why =>
    rw [hcell] at h
    cases h
  | ok a =>
    rw [hcell] at h
    exact ⟨a, rfl, Except.ok.inj h⟩

theorem caption?_of_labelAt {coord text : String} (h : src.labelAt sheet coord = .ok text) :
    src.workbook.caption? sheet coord = some text := by
  obtain ⟨a, hcell, rfl⟩ := exists_cellAt_of_labelAt h
  obtain ⟨p, hp, rfl⟩ := eq_of_cellAt hcell
  rw [Workbook.caption?, hp]
  rfl

theorem mapM_caption? {path labels : List String}
    (h : path.mapM (src.labelAt sheet) = .ok labels) :
    path.mapM (src.workbook.caption? sheet) = some labels := by
  induction path generalizing labels with
  | nil =>
    rw [← Except.ok.inj h]
    rfl
  | cons coord rest ih =>
    rw [List.mapM_cons] at h
    cases hlabel : src.labelAt sheet coord with
    | error why =>
      rw [hlabel] at h
      cases h
    | ok label =>
      cases hrest : rest.mapM (src.labelAt sheet) with
      | error why =>
        rw [hlabel, hrest] at h
        cases h
      | ok labels =>
        rw [hlabel, hrest] at h
        rw [List.mapM_cons, caption?_of_labelAt hlabel, ih hrest, ← Except.ok.inj h]
        rfl

end Source

/-! ### Work on lists -/

/-- In lists that are related member by member, every member has its partner. -/
theorem exists_of_forall₂ {α β : Type} {R : α → β → Prop} {xs : List α} {ys : List β}
    (h : List.Forall₂ R xs ys) : (∀ x ∈ xs, ∃ y ∈ ys, R x y) ∧ ∀ y ∈ ys, ∃ x ∈ xs, R x y := by
  induction h with
  | nil => simp
  | cons hhead _ ih =>
    constructor
    · refine List.forall_mem_cons.mpr ⟨⟨_, List.mem_cons_self, hhead⟩, fun x hx => ?_⟩
      obtain ⟨y, hy, hxy⟩ := ih.1 x hx
      exact ⟨y, List.mem_cons_of_mem _ hy, hxy⟩
    · refine List.forall_mem_cons.mpr ⟨⟨_, List.mem_cons_self, hhead⟩, fun y hy => ?_⟩
      obtain ⟨x, hx, hxy⟩ := ih.2 y hy
      exact ⟨x, List.mem_cons_of_mem _ hx, hxy⟩

theorem mapM_eq_some_of_forall₂ {α β : Type} {f : α → Option β} {xs : List α} {ys : List β}
    (h : List.Forall₂ (fun x y => f x = some y) xs ys) : xs.mapM f = some ys := by
  induction h with
  | nil => rfl
  | cons hhead _ ih =>
    rw [List.mapM_cons, hhead, ih]
    rfl

namespace SessionM

variable {src : Source} {T : Address → Prop} {α β : Type} {before : List Address} {s : Session}

theorem does_ofExcept {e : Except Error α} (h : s.Sound src before) :
    Does src T (fun _ a => e = .ok a) (MonadExcept.ofExcept e) before s := by
  cases e with
  | error why => exact does_throw h
  | ok a => exact does_pure h rfl

/-- Work on the members of a list, one after the other.  What it achieves for a member must stay true
while more cells are compiled. -/
theorem Does.mapM {f : α → SessionM β} {P : α → List Address → β → Prop} {xs : List α}
    (hstays : ∀ x ∈ xs, ∀ y after later, (∀ c ∈ after, c ∈ later) → P x after y → P x later y)
    (hf : ∀ x ∈ xs, ∀ before s, s.Sound src before → s.chain = [] → Does src T (P x) (f x) before s)
    (h : s.Sound src before) (hchain : s.chain = []) :
    Does src T (fun after ys => List.Forall₂ (fun x y => P x after y) xs ys) (xs.mapM f) before s := by
  induction xs generalizing before s with
  | nil =>
    rw [List.mapM_nil]
    exact does_pure h .nil
  | cons x rest ih =>
    rw [List.mapM_cons]
    refine (hf x List.mem_cons_self before s h hchain).bind fun y after s' hgrown hy => ?_
    have hrest := ih (fun z hz => hstays z (List.mem_cons_of_mem _ hz))
      (fun z hz => hf z (List.mem_cons_of_mem _ hz)) hgrown.sound (hgrown.chain.trans hchain)
    refine hrest.bind fun ys later s'' hgrown' hys => does_pure hgrown'.sound ?_
    exact .cons (hstays x List.mem_cons_self y after later (fun _ hc => hgrown'.mem hc) hy) hys

end SessionM

/-! ### The walk -/

/-- The variables are those of cells that are done. -/
def OutputValue.Bound (done : List Address) (v : OutputValue) : Prop :=
  ∀ var ∈ v.variables, var ∈ done.map Address.variableName

theorem OutputValue.Bound.mono {done later : List Address} {v : OutputValue} (h : v.Bound done)
    (hlater : ∀ c ∈ done, c ∈ later) : v.Bound later :=
  fun var hvar => List.map_subset _ hlater (h var hvar)

/-- What the work on a column achieves. -/
structure Workbook.ColumnDone (wb : Workbook) (first : Address) (rows : Nat) (done : List Address)
    (v : OutputValue) : Prop where
  /-- The value is the one that the column exports. -/
  value : v = wb.columnExport first rows
  /-- Its variables are bound. -/
  bound : v.Bound done
  /-- The total is compiled, unless the column is merged. -/
  total (h : wb.mergedBelow first = false) : { first with row := first.row + rows } ∈ done

theorem Workbook.ColumnDone.mono {wb : Workbook} {first : Address} {rows : Nat}
    {done later : List Address} {v : OutputValue} (h : wb.ColumnDone first rows done v)
    (hlater : ∀ c ∈ done, c ∈ later) : wb.ColumnDone first rows later v :=
  ⟨h.value, h.bound.mono hlater, fun hmerged => hlater _ (h.total hmerged)⟩

/-- What the work on an entry achieves. -/
structure Entry.Done (wb : Workbook) (sheet : String) (entry : Entry) (done : List Address)
    (os : List Output) : Prop where
  /-- The outputs are those of the entry. -/
  outputs : entry.expand? wb sheet = some os
  /-- Their variables are bound. -/
  bound : ∀ o ∈ os, o.value.Bound done
  /-- The totals are compiled. -/
  totals : ∀ c ∈ entry.totals wb sheet, c ∈ done

theorem Entry.Done.mono {wb : Workbook} {sheet : String} {entry : Entry} {done later : List Address}
    {os : List Output} (h : entry.Done wb sheet done os) (hlater : ∀ c ∈ done, c ∈ later) :
    entry.Done wb sheet later os :=
  ⟨h.outputs, fun o ho => (h.bound o ho).mono hlater, fun c hc => hlater c (h.totals c hc)⟩

theorem columnRange?_eq (firstColumn lastColumn : String) :
    columnRange? firstColumn lastColumn = tableColumns? firstColumn lastColumn := by
  simp only [columnRange?, tableColumns?, columnSpan, List.range'_eq_map_range]

theorem lt_of_mem_tableColumns? {firstColumn lastColumn : String} {columns : List Nat}
    (h : tableColumns? firstColumn lastColumn = some columns) :
    ∀ col ∈ columns, col < maxColumns := by
  unfold tableColumns? at h
  simp only [Option.bind_eq_bind, Option.bind_eq_some_iff, Option.pure_def, Option.some.injEq] at h
  obtain ⟨first, -, last, hlast, rfl⟩ := h
  have hlimit := lt_of_column? hlast
  intro col hcol
  rw [List.mem_range'_1] at hcol
  omega

namespace Source

variable {src : Source} {before : List Address} {s : Session}

/-- An address with a title of the workbook is as the workbook writes it. -/
theorem canonical_of_hasTitle {a : Address} (h : src.workbook.HasTitle a.sheet) :
    src.canonical a = .ok a := by
  obtain ⟨sheet, hsheet, hname⟩ := h.exists_sheet?
  rw [canonical, hsheet]
  simp only [hname]

theorem does_ensure_of_hasTitle {a : Address} (htitle : src.workbook.HasTitle a.sheet)
    (h : s.Sound src before) (hchain : s.chain = []) :
    Does src (fun _ => True) (fun done n => n = a.variableName ∧ a ∈ done) (src.ensure a)
      before s := by
  have hensure := does_ensure (T := fun _ => True) (a := a) (fun _ _ _ _ => trivial) h hchain
    fun _ _ => trivial
  refine hensure.mono ?_
  rintro done n ⟨c, hcanon, hname, hc⟩
  rw [canonical_of_hasTitle htitle] at hcanon
  obtain rfl := Except.ok.inj hcanon
  exact ⟨hname, hc⟩

theorem does_ensureColumn {first : Address} (htitle : src.workbook.HasTitle first.sheet)
    (rows : Nat) (h : s.Sound src before) (hchain : s.chain = []) :
    Does src (fun _ => True)
      (fun done vars => vars = (List.range' first.row rows).map
          (fun row => { first with row }.variableName) ∧
        ∀ var ∈ vars, var ∈ done.map Address.variableName)
      (src.ensureColumn first rows) before s := by
  have hmembers : Does src (fun _ => True)
      (fun done vars => List.Forall₂ (fun i n =>
        (first.below i).variableName = n ∧ first.below i ∈ done) (List.range rows) vars)
      (src.ensureColumn first rows) before s := by
    refine Does.mapM (fun i _ n done later hlater hn => ⟨hn.1, hlater _ hn.2⟩) ?_ h hchain
    intro i _ before s h hchain
    have hensure := does_ensure_of_hasTitle (a := first.below i) htitle h hchain
    exact hensure.mono fun _ _ hn => ⟨hn.1.symm, hn.2⟩
  refine hmembers.mono fun done vars hvars => ⟨?_, ?_⟩
  · have hnames : List.Forall₂ (fun i n => (first.below i).variableName = n) (List.range rows)
        vars := hvars.imp fun _ _ hn => hn.1
    rw [← List.forall₂_map_left_iff (f := fun i => (first.below i).variableName),
      List.forall₂_eq_eq_eq] at hnames
    rw [← hnames, List.range'_eq_map_range, List.map_map]
    rfl
  · intro var hvar
    obtain ⟨i, -, rfl, hdone⟩ := (exists_of_forall₂ hvars).2 var hvar
    exact List.mem_map_of_mem hdone

/-- The work on the cells of a column. -/
theorem does_columnValue {first : Address} (htitle : src.workbook.HasTitle first.sheet) (rows : Nat)
    (h : s.Sound src before) (hchain : s.chain = []) :
    Does src (fun _ => True) (src.workbook.ColumnDone first rows) (src.columnValue first rows)
      before s := by
  unfold columnValue
  split
  · next hmerged =>
    have hbelow : src.workbook.mergedBelow first = true := decide_eq_true hmerged
    refine (does_ensure_of_hasTitle htitle h hchain).bind fun n done s' hgrown hn => ?_
    refine does_pure hgrown.sound ⟨?_, ?_, fun hfree => ?_⟩
    · rw [Workbook.columnExport, if_pos hbelow, hn.1]
    · rw [hn.1]
      exact List.forall_mem_singleton.mpr (List.mem_map_of_mem hn.2)
    · rw [hbelow] at hfree
      cases hfree
  · next hmerged =>
    have hbelow : ¬ src.workbook.mergedBelow first = true := fun h => hmerged (of_decide_eq_true h)
    refine (does_ensureColumn htitle rows h hchain).bind fun vars done s' hgrown hvars => ?_
    refine (does_ensure_of_hasTitle (a := first.below rows) htitle hgrown.sound
      (hgrown.chain.trans hchain)).bind fun n later s'' hgrown' hn => ?_
    refine does_pure hgrown'.sound ⟨?_, ?_, fun _ => hn.2⟩
    · rw [Workbook.columnExport, if_neg hbelow, hvars.1]
    · exact OutputValue.Bound.mono hvars.2 fun _ hc => hgrown'.mem hc

/-- The output of a column, as it should be, and what the work on it achieves. -/
def ColumnOutputDone (src : Source) (sheet : String) (path : List String)
    (headerRow firstRow rows col : Nat) (done : List Address) (o : Output) : Prop :=
  o = ⟨path, (src.workbook.value ⟨sheet, headerRow - 1, col⟩).display,
      src.workbook.columnExport ⟨sheet, firstRow - 1, col⟩ rows⟩ ∧
    src.workbook.ColumnDone ⟨sheet, firstRow - 1, col⟩ rows done o.value

/-- The work on a column of a table. -/
theorem does_columnOutput {sheet : String} (htitle : src.workbook.HasTitle sheet)
    (path : List String) (headerRow firstRow rows : Nat) {col : Nat} (hcol : col < maxColumns)
    (h : s.Sound src before) (hchain : s.chain = []) :
    Does src (fun _ => True) (src.ColumnOutputDone sheet path headerRow firstRow rows col)
      (src.columnOutput sheet path headerRow firstRow rows col) before s := by
  unfold columnOutput
  refine (does_ofExcept h).bind fun label done s' hgrown hlabel => ?_
  refine (does_ofExcept hgrown.sound).bind fun first done' s'' hgrown' hfirst => ?_
  obtain rfl := eq_of_cellAt_coordinateText hcol hfirst
  refine (does_columnValue htitle rows hgrown'.sound
    (hgrown'.chain.trans (hgrown.chain.trans hchain))).bind fun v later s₃ hgrown₃ hv => ?_
  have hshown : label = (src.workbook.value ⟨sheet, headerRow - 1, col⟩).display := by
    obtain ⟨a, hcell, rfl⟩ := exists_cellAt_of_labelAt hlabel
    rw [eq_of_cellAt_coordinateText hcol hcell]
  refine does_pure hgrown₃.sound ⟨?_, hv⟩
  rw [hshown, hv.value]

/-- What the work on the columns of a table achieves for the table. -/
theorem done_of_columns {sheet : String} {path labels : List String}
    {firstColumn lastColumn : String} {headerRow firstRow rows : Nat} {columns : List Nat}
    {done : List Address} {os : List Output}
    (hcolumns : tableColumns? firstColumn lastColumn = some columns)
    (hlabels : path.mapM (src.labelAt sheet) = .ok labels)
    (hos : List.Forall₂ (fun col o =>
      src.ColumnOutputDone sheet labels headerRow firstRow rows col done o) columns os) :
    (Entry.table path firstColumn lastColumn headerRow firstRow rows).Done src.workbook sheet done
      os where
  outputs := by
    have hmap := hos.imp fun _ _ ho => ho.1.symm
    rw [← List.forall₂_map_left_iff (R := (· = ·)), List.forall₂_eq_eq_eq] at hmap
    rw [Entry.expand?, hcolumns, mapM_caption? hlabels, ← hmap]
    rfl
  bound o ho := by
    obtain ⟨col, -, -, hdone⟩ := (exists_of_forall₂ hos).2 o ho
    exact hdone.bound
  totals c hc := by
    simp only [Entry.totals, hcolumns, Option.getD_some, List.mem_map, List.mem_filter,
      Bool.not_eq_true'] at hc
    obtain ⟨col, ⟨hcol, hfree⟩, rfl⟩ := hc
    obtain ⟨o, -, -, hdone⟩ := (exists_of_forall₂ hos).1 col hcol
    exact hdone.total hfree

/-- The work on an entry. -/
theorem does_entryOutputs {sheet : String} (htitle : src.workbook.HasTitle sheet) (entry : Entry)
    (h : s.Sound src before) (hchain : s.chain = []) :
    Does src (fun _ => True) (entry.Done src.workbook sheet) (src.entryOutputs sheet entry)
      before s := by
  cases entry with
  | single path label value =>
    unfold entryOutputs
    refine (does_ofExcept h).bind fun a done s' hgrown ha => ?_
    obtain ⟨p, hp, rfl⟩ := eq_of_cellAt ha
    refine (does_ensure_of_hasTitle htitle hgrown.sound
      (hgrown.chain.trans hchain)).bind fun n done₂ s₂ hgrown₂ hn => ?_
    refine (does_ofExcept hgrown₂.sound).bind fun labels done₃ s₃ hgrown₃ hlabels => ?_
    refine (does_ofExcept hgrown₃.sound).bind fun text done₄ s₄ hgrown₄ htext => ?_
    refine does_pure hgrown₄.sound ⟨?_, ?_, fun c hc => nomatch hc⟩
    · rw [Entry.expand?, hp, mapM_caption? hlabels, caption?_of_labelAt htext, hn.1]
      rfl
    · refine List.forall_mem_singleton.mpr (List.forall_mem_singleton.mpr ?_)
      rw [hn.1]
      exact List.mem_map_of_mem (hgrown₄.mem (hgrown₃.mem hn.2))
  | table path firstColumn lastColumn headerRow firstRow rows =>
    rw [entryOutputs, columnRange?_eq]
    cases hcolumns : tableColumns? firstColumn lastColumn with
    | none => exact does_throw h
    | some columns =>
      refine (does_ofExcept h).bind fun labels done s' hgrown hlabels => ?_
      have hwork : Does src (fun _ => True) (fun done os => List.Forall₂ (fun col o =>
          src.ColumnOutputDone sheet labels headerRow firstRow rows col done o) columns os)
          (columns.mapM (src.columnOutput sheet labels headerRow firstRow rows)) done s' := by
        refine Does.mapM (fun col _ o done later hlater ho => ⟨ho.1, ho.2.mono hlater⟩) ?_
          hgrown.sound (hgrown.chain.trans hchain)
        intro col hcol before s h hchain
        exact does_columnOutput htitle labels headerRow firstRow rows
          (lt_of_mem_tableColumns? hcolumns col hcol) h hchain
      refine hwork.mono fun done os hos => ?_
      exact done_of_columns hcolumns hlabels hos

/-- The work on all entries. -/
theorem does_outputs (h : s.Sound src before) (hchain : s.chain = []) :
    Does src (fun _ => True)
      (fun done os => src.layout.expand? src.workbook = some os ∧
        (∀ o ∈ os, o.value.Bound done) ∧ ∀ c ∈ src.layout.totals src.workbook, c ∈ done)
      src.outputs before s := by
  unfold outputs Layout.expand? Layout.totals
  cases hsheet : src.workbook.sheet? src.layout.defaultSheet with
  | none => exact does_throw h
  | some sheet =>
    have htitle := Workbook.hasTitle_of_sheet? hsheet
    have hwork : Does src (fun _ => True) (fun done parts => List.Forall₂ (fun entry os =>
        Entry.Done src.workbook sheet.name entry done os) src.layout.entries parts)
        (src.layout.entries.mapM (src.entryOutputs sheet.name)) before s :=
      Does.mapM (fun _ _ _ _ _ hlater hos => hos.mono hlater)
        (fun entry _ _ _ h hchain => does_entryOutputs htitle entry h hchain) h hchain
    refine hwork.bind fun parts done s' hgrown hparts => ?_
    refine does_pure hgrown.sound ⟨?_, fun o ho => ?_, fun c hc => ?_⟩
    · have hexpand := mapM_eq_some_of_forall₂ (hparts.imp fun _ _ hos => hos.outputs)
      rw [Option.bind_eq_bind, Option.bind_some, hexpand]
      rfl
    · obtain ⟨os, hos, hmem⟩ := List.mem_flatten.mp ho
      obtain ⟨entry, -, hdone⟩ := (exists_of_forall₂ hparts).2 os hos
      exact hdone.bound o hmem
    · obtain ⟨entry, hentry, hmem⟩ := List.mem_flatMap.mp hc
      obtain ⟨os, -, hdone⟩ := (exists_of_forall₂ hparts).1 entry hentry
      exact hdone.totals c hmem

/-- **The outputs are the entries of the layout expanded in order.**  Their variables are bound by
instructions, and the totals below the columns that are not merged have their instructions too. -/
theorem outputs_expand (src : Source) (history : List Session.Request) {os : List Output}
    {s : Session} (h : src.outputs (src.after history) = (.ok os, s)) :
    src.layout.expand? src.workbook = some os ∧
      (∀ o ∈ os, ∀ var ∈ o.value.variables, ∃ i ∈ s.instructions.toList, i.name = var) ∧
      ∀ c ∈ src.layout.totals src.workbook,
        ∃ i ∈ s.instructions.toList, src.instruction c = .ok i := by
  obtain ⟨cells, hsound, hchain, -, -⟩ := src.exists_sound_after history
  obtain ⟨done, hgrown, hdone⟩ := does_outputs hsound hchain
  rw [h] at hgrown hdone
  obtain ⟨hexpand, hbound, htotals⟩ := hdone os rfl
  have hcompiled := hgrown.sound.compiled
  refine ⟨hexpand, fun o ho var hvar => ?_, fun c hc => ?_⟩
  · have hname := hbound o ho var hvar
    rw [← hcompiled.names] at hname
    exact List.mem_map.mp hname
  · have hmem := List.mem_map_of_mem (f := src.instruction) (htotals c hc)
    rw [hcompiled.map_instruction] at hmem
    obtain ⟨i, hi, heq⟩ := List.mem_map.mp hmem
    exact ⟨i, hi, heq.symm⟩

end Source

/-- A value, and a table of two columns: one with a total below its two members, and one that is
merged. -/
def mixedTable : Source where
  workbook :=
    let labels := (((Sheet.new "report").setValue ⟨0, 0⟩ (.text "Elapsed")).setValue ⟨2, 0⟩
      (.text "Stats")).setValue ⟨3, 1⟩ (.text "IPC")
    let values := ((labels.setValue ⟨3, 2⟩ (.text "Total")).setFormula ⟨0, 1⟩ "=B6").setFormula
      ⟨6, 1⟩ "=SUM(B5:B6)"
    { sheets := [{ values with merges := [⟨⟨4, 2⟩, ⟨6, 2⟩⟩] }] }
  layout := { entries := [.single [] "A1" "B1", .table ["A3"] "B" "c" 4 5 2] }

/-- One of the cells was compiled before, and a request for another sheet has failed. -/
theorem outputs_expand_mixedTable :
    let run := mixedTable.outputs (mixedTable.after [.cell ⟨"Report", 5, 1⟩, .reference "x!A1"])
    let os : List Output := [⟨[], "Elapsed", .single "report_B1"⟩,
      ⟨["Stats"], "IPC", .column ["report_B5", "report_B6"]⟩,
      ⟨["Stats"], "Total", .single "report_C5"⟩]
    run.1 = .ok os ∧ mixedTable.layout.expand? mixedTable.workbook = some os ∧
      ∃ i ∈ run.2.instructions.toList, mixedTable.instruction ⟨"report", 6, 1⟩ = .ok i := by
  intro run os
  have hrun : run.1 = .ok os := by decide +kernel
  have htotal : ⟨"report", 6, 1⟩ ∈ mixedTable.layout.totals mixedTable.workbook := by
    decide +kernel
  obtain ⟨hexpand, -, htotals⟩ := Source.outputs_expand mixedTable
    [.cell ⟨"Report", 5, 1⟩, .reference "x!A1"] (Prod.ext hrun rfl)
  exact ⟨hrun, hexpand, htotals _ htotal⟩

end ReportCompiler
