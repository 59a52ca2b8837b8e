import ReportCompiler.Proofs.Cell.Variables
import ReportCompiler.Proofs.Layout.Check
import ReportCompiler.Proofs.Program.Requests
import ReportCompiler.Proofs.Session.Course
import ReportCompiler.Proofs.Session.Exactness
import ReportCompiler.Proofs.Workbook.Ranges

/-!
# Layouts and the limits of a sheet

The coordinates of a layout are checked before it is used, and so are the columns of its tables.  The
rows of a table are numbers that may be as large as they like: only the cells at the top of its
columns are read from coordinates again, and the others are counted from there.  So a layout that
passes the check keeps to the sheet exactly if its tables end on it.

## Main definitions

* `Entry.positions`, `Layout.positions` - the positions that the outputs go by.
* `Entry.Fits`, `Layout.Fits` - the tables end on the sheet.
* `Entry.BeginsOutside` - the header or the first row of a table lies below the sheet.
* `Session.OnSheet` - every instruction is about a cell on a sheet.

## Main results

* `Entry.positions_inSheet_iff` - the positions of an entry lie on a sheet exactly if it fits.
* `course_placed` - the walk of a session never complains about a coordinate of the layout.
* `outputs_onSheet` - **what a checked layout leads to lies on a sheet if its tables end there**, and
  what goes wrong if they do not.
-/

namespace ReportCompiler

/-! ### The positions of a layout -/

namespace Entry

/-- The positions that the outputs of an entry go by: its labels and its value, and in each column of
a table the header, the cell below the first one, and the cells that are asked for. -/
def positions (wb : Workbook) (sheet : String) : Entry → List Coordinate
  | .single path label value => (path ++ [label, value]).filterMap coordinate?
  | .table path firstColumn lastColumn headerRow firstRow rows =>
    path.filterMap coordinate? ++ ((tableColumns? firstColumn lastColumn).getD []).flatMap fun col =>
      ⟨headerRow - 1, col⟩ :: ⟨firstRow, col⟩ ::
        (wb.columnRequests ⟨sheet, firstRow - 1, col⟩ rows).map Address.position

/-- The header of a table lies on a sheet, and so does the last row of each of its columns: the one
below the first cell when the column is merged, and else the row of the total. -/
def Fits (wb : Workbook) (sheet : String) : Entry → Prop
  | .single _ _ _ => True
  | .table _ firstColumn lastColumn headerRow firstRow rows =>
    headerRow ≤ maxRows ∧ ∀ col ∈ (tableColumns? firstColumn lastColumn).getD [],
      firstRow + (if wb.mergedBelow ⟨sheet, firstRow - 1, col⟩ then 1 else rows) ≤ maxRows

instance (wb : Workbook) (sheet : String) : (entry : Entry) → Decidable (entry.Fits wb sheet)
  | .single _ _ _ => inferInstanceAs (Decidable True)
  | .table _ _ _ _ _ _ => inferInstanceAs (Decidable (_ ∧ _))

/-- The header or the first row of a table lies below the last row of a sheet. -/
def BeginsOutside : Entry → Prop
  | .single _ _ _ => False
  | .table _ _ _ headerRow firstRow _ => maxRows < headerRow ∨ maxRows < firstRow

end Entry

namespace Layout

/-- The positions that the outputs of a layout go by. -/
def positions (layout : Layout) (wb : Workbook) : List Coordinate :=
  match wb.sheet? layout.defaultSheet with
  | none => []
  | some sheet => layout.entries.flatMap (Entry.positions wb sheet.name)

/-- The tables of a layout end on the sheet of the report. -/
def Fits (layout : Layout) (wb : Workbook) : Prop :=
  ∀ sheet ∈ wb.sheet? layout.defaultSheet, ∀ entry ∈ layout.entries, entry.Fits wb sheet.name

instance (layout : Layout) (wb : Workbook) : Decidable (layout.Fits wb) :=
  inferInstanceAs (Decidable (∀ _ ∈ _, _))

end Layout

theorem inSheet_of_coordinate? {text : String} {p : Coordinate} (h : coordinate? text = some p) :
    p.InSheet :=
  (coordinate?_eq_some_iff.mp h).1

theorem inSheet_of_mem_filterMap {texts : List String} {p : Coordinate}
    (h : p ∈ texts.filterMap coordinate?) : p.InSheet := by
  obtain ⟨text, -, hp⟩ := List.mem_filterMap.mp h
  exact inSheet_of_coordinate? hp

/-- Columns in order make a list of columns, which is not empty. -/
theorem ColumnsInOrder.exists_tableColumns? {first last : String} (h : ColumnsInOrder first last) :
    ∃ col columns, tableColumns? first last = some (col :: columns) := by
  obtain ⟨a, b, ha, hb, hle⟩ := h
  obtain ⟨n, hn⟩ : ∃ n, b + 1 - a = n + 1 := ⟨b - a, by omega⟩
  refine ⟨a, List.range' (a + 1) n, ?_⟩
  simp only [tableColumns?, ha, hb, Option.bind_eq_bind, Option.bind_some, hn, List.range'_succ]
  rfl

/-- The cells of a column lie on the sheet, with the one below the first, exactly if the last one
does. -/
theorem Workbook.column_inSheet_iff {wb : Workbook} {sheet : String} {firstRow rows col : Nat}
    (hcol : col < maxColumns) (hfirst : 0 < firstRow) (hrows : 0 < rows) :
    (∀ p ∈ ⟨firstRow, col⟩ :: (wb.columnRequests ⟨sheet, firstRow - 1, col⟩ rows).map
        Address.position, p.InSheet) ↔
      firstRow + (if wb.mergedBelow ⟨sheet, firstRow - 1, col⟩ then 1 else rows) ≤ maxRows := by
  unfold columnRequests
  split
  · simp only [List.map_cons, List.map_nil, List.forall_mem_cons, Coordinate.InSheet, hcol,
      and_true, List.not_mem_nil, false_implies, implies_true, Address.position]
    omega
  · simp only [List.map_map, List.forall_mem_cons, List.forall_mem_map, List.mem_range,
      Coordinate.InSheet, hcol, and_true, Function.comp_apply, Address.position, Address.below]
    constructor
    · rintro ⟨-, hall⟩
      have hlast := hall rows (Nat.lt_succ_self rows)
      omega
    · intro hle
      refine ⟨by omega, fun i hi => ?_⟩
      omega

/-- **The positions of a usable entry lie on a sheet exactly if the entry fits.** -/
theorem Entry.positions_inSheet_iff {wb : Workbook} {sheet : String} {entry : Entry}
    (h : entry.Usable) : (∀ p ∈ entry.positions wb sheet, p.InSheet) ↔ entry.Fits wb sheet := by
  cases entry with
  | single path label value =>
    exact iff_of_true (fun p hp => inSheet_of_mem_filterMap hp) trivial
  | table path firstColumn lastColumn headerRow firstRow rows =>
    obtain ⟨-, hcolumns, ⟨hheader, hfirst⟩, hrows⟩ := h
    obtain ⟨col, columns, heq⟩ := hcolumns.exists_tableColumns?
    have hlimit := lt_of_mem_tableColumns? heq
    have hcol : ∀ c ∈ col :: columns, (∀ p ∈ ⟨headerRow - 1, c⟩ :: ⟨firstRow, c⟩ ::
        (wb.columnRequests ⟨sheet, firstRow - 1, c⟩ rows).map Address.position, p.InSheet) ↔
        headerRow ≤ maxRows ∧
          firstRow + (if wb.mergedBelow ⟨sheet, firstRow - 1, c⟩ then 1 else rows) ≤ maxRows := by
      intro c hc
      rw [List.forall_mem_cons, Workbook.column_inSheet_iff (hlimit c hc) hfirst hrows]
      refine and_congr_left' ?_
      simp only [Coordinate.InSheet, hlimit c hc, and_true]
      omega
    rw [positions, Fits, heq, Option.getD_some, List.forall_mem_append, List.forall_mem_flatMap,
      and_iff_right fun p hp => inSheet_of_mem_filterMap hp]
    constructor
    · intro hall
      refine ⟨((hcol col List.mem_cons_self).mp (hall col List.mem_cons_self)).1, ?_⟩
      exact fun c hc => ((hcol c hc).mp (hall c hc)).2
    · rintro ⟨hle, hall⟩ c hc
      exact (hcol c hc).mpr ⟨hle, hall c hc⟩

theorem Layout.positions_inSheet_iff {layout : Layout} {wb : Workbook} (h : layout.Usable) :
    (∀ p ∈ layout.positions wb, p.InSheet) ↔ layout.Fits wb := by
  unfold positions Fits
  cases wb.sheet? layout.defaultSheet with
  | none => simp
  | some sheet =>
    simp only [List.forall_mem_flatMap, Option.mem_some, forall_eq']
    exact forall₂_congr fun entry hentry => Entry.positions_inSheet_iff (h.entries entry hentry)

/-- What a layout asks for lies at positions that its outputs go by. -/
theorem Layout.position_mem_of_mem_requests {layout : Layout} {wb : Workbook} {a : Address}
    (h : a ∈ layout.requests wb) : a.position ∈ layout.positions wb := by
  unfold requests at h
  unfold positions
  cases hsheet : wb.sheet? layout.defaultSheet with
  | none => simp [hsheet] at h
  | some sheet =>
    rw [hsheet] at h
    obtain ⟨entry, hentry, ha⟩ := List.mem_flatMap.mp h
    refine List.mem_flatMap.mpr ⟨entry, hentry, ?_⟩
    cases entry with
    | single path label value =>
      obtain ⟨p, hp, rfl⟩ := Option.map_eq_some_iff.mp (Option.mem_toList.mp ha)
      exact List.mem_filterMap.mpr ⟨value, by simp, hp⟩
    | table path firstColumn lastColumn headerRow firstRow rows =>
      obtain ⟨col, hcol, ha⟩ := List.mem_flatMap.mp ha
      refine List.mem_append_right _ (List.mem_flatMap.mpr ⟨col, hcol, ?_⟩)
      exact List.mem_cons_of_mem _ (List.mem_cons_of_mem _ (List.mem_map_of_mem ha))

/-! ### Coordinates that are refused -/

/-- A coordinate of a usable entry is refused only where the table begins outside. -/
theorem Entry.Usable.beginsOutside {entry : Entry} (h : entry.Usable) {text : String}
    (hmem : text ∈ entry.coordinates) (hnone : coordinate? text = none) : entry.BeginsOutside := by
  have hrefuse {texts : List String} (hall : ∀ t ∈ texts, (coordinate? t).isSome) :
      text ∉ texts := by
    intro htext
    have hsome := hall text htext
    rw [hnone] at hsome
    cases hsome
  cases entry with
  | single path label value => exact hrefuse h hmem
  | table path firstColumn lastColumn headerRow firstRow rows =>
    obtain ⟨hpath, hcolumns, ⟨hheader, hfirst⟩, -⟩ := h
    obtain ⟨col, columns, heq⟩ := hcolumns.exists_tableColumns?
    rw [Entry.coordinates, heq, Option.getD_some] at hmem
    obtain ⟨c, hc, htext⟩ := List.mem_flatMap.mp ((List.mem_append.mp hmem).resolve_left
      (hrefuse hpath))
    have hlimit := lt_of_mem_tableColumns? heq c hc
    -- a row that is not zero is refused only if there is no such row
    have hrow {row : Nat} (hpos : 0 < row) (htext : text = coordinateText c row) :
        maxRows < row := by
      rw [htext, coordinate?_coordinateText hlimit] at hnone
      by_contra hle
      have hinside : ¬ ((row = 0 || maxRows < row : Bool) = true) := by
        simp only [Bool.or_eq_true, decide_eq_true_eq]
        omega
      rw [if_neg hinside] at hnone
      cases hnone
    simp only [List.mem_cons, List.not_mem_nil, or_false] at htext
    exact htext.imp (hrow hheader) (hrow hfirst)

theorem Entry.Usable.not_beginsOutside {entry : Entry} (h : entry.Usable) {wb : Workbook}
    {sheet : String} (hfits : entry.Fits wb sheet) : ¬ entry.BeginsOutside := by
  cases entry with
  | single path label value => exact id
  | table path firstColumn lastColumn headerRow firstRow rows =>
    obtain ⟨col, columns, heq⟩ := h.2.1.exists_tableColumns?
    obtain ⟨hheader, hall⟩ := hfits
    rw [heq] at hall
    have hfirst := hall col List.mem_cons_self
    rintro (hlt | hlt) <;> omega

/-! ### References that name nothing -/

theorem splitSheet_error {cs : List Char} {why : Unresolved} (h : splitSheet cs = .error why) :
    why ≠ .notCoordinate := by
  unfold splitSheet at h
  split at h
  · split at h <;> cases h <;> nofun
  · split at h <;> cases h

theorem secondHalf_error {sheet : String} {cs : List Char} {why : Unresolved}
    (h : secondHalf sheet cs = .error why) : why ≠ .notCoordinate := by
  unfold secondHalf at h
  split at h
  · cases h
  · split at h <;> cases h
    nofun
  · cases h
    nofun

theorem resolveRange_error {sheet : String} {first last : List Char} {why : Unresolved}
    (h : resolveRange sheet first last = .error why) : why ≠ .notCoordinate := by
  unfold resolveRange at h
  cases hlast : secondHalf sheet last with
  | error why' =>
    rw [hlast] at h
    cases h
    exact secondHalf_error hlast
  | ok last =>
    simp only [hlast, bind, Except.bind] at h
    split at h
    · split at h <;> cases h
      nofun
    · cases h
      nofun

namespace Workbook

variable {wb : Workbook} {current : String}

theorem resolveDirect_error {cs : List Char} {why : Unresolved}
    (h : wb.resolveDirect current cs = .error why) : why ≠ .notCoordinate := by
  unfold resolveDirect at h
  cases hsplit : splitSheet cs with
  | error why' =>
    rw [hsplit] at h
    cases h
    exact splitSheet_error hsplit
  | ok parts =>
    obtain ⟨title, coord⟩ := parts
    simp only [hsplit, bind, Except.bind] at h
    split at h
    · cases h
      nofun
    · split at h
      · exact resolveRange_error h
      · split at h
        · cases h
        · cases h
          split <;> nofun

theorem resolveThrough_error {follow : String → Except ReferenceError Resolved} {raw : String}
    {why : ReferenceError}
    (hfollow : ∀ target why, follow target = .error why → why.reason ≠ .notCoordinate)
    (h : wb.resolveThrough current follow raw = .error why) : why.reason ≠ .notCoordinate := by
  unfold resolveThrough at h
  simp only at h
  split at h
  · cases h
    nofun
  · cases h
    nofun
  · split at h
    · exact hfollow _ _ h
    · split at h
      · cases h
      · next hdirect =>
        cases h
        exact resolveDirect_error hdirect

/-- A reference that names nothing has other reasons. -/
theorem resolve_error {raw : String} {why : ReferenceError}
    (h : wb.resolve current raw = .error why) : why.reason ≠ .notCoordinate := by
  unfold resolve at h
  generalize maxNameSteps = steps at h
  induction steps generalizing raw why with
  | zero =>
    refine resolveThrough_error ?_ h
    rintro target _ ⟨⟩
    nofun
  | succ steps ih => exact resolveThrough_error (fun target why htarget => ih htarget) h

end Workbook

/-- The error says that a text is not a coordinate. -/
def Error.Misplaced : Error → Prop
  | .resolution why => why.reason = .notCoordinate
  | _ => False

theorem Error.misplaced_inCell {c : Address} {why : Error} :
    (why.inCell c).Misplaced ↔ why.Misplaced := by
  cases why with
  | formula cell fault => cases cell <;> exact Iff.rfl
  | _ => exact Iff.rfl

namespace Source

open SessionM

variable {src : Source}

theorem overrideOf_error {c : Address} {why : ReferenceError}
    (h : src.overrideOf c = .error why) : why.reason ≠ .notCoordinate := by
  unfold overrideOf at h
  split at h
  · cases h
  split at h
  · cases h
  split at h
  · cases h
  split at h
  · cases h
  unfold eventAt at h
  split at h
  · cases h
  split at h
  · dsimp only at h
    split at h <;> cases h
    nofun
  · cases h

/-- **The walk of a session never complains about a coordinate of the layout.** -/
theorem course_placed (src : Source) : src.Course (fun _ _ => True) fun why => ¬ why.Misplaced where
  refl _ := trivial
  trans _ _ := trivial
  scope _ _ _ := trivial
  visit _ _ _ := trivial
  reference h := Workbook.resolve_error h
  override h := overrideOf_error h
  canonical {c why} h := by
    unfold canonical at h
    split at h <;> cases h
    nofun
  formula _ := id
  inCell _ h := fun hwhy => h (Error.misplaced_inCell.mp hwhy)
  cycle _ := id
  breach _ := id

end Source

/-! ### Instructions on a sheet -/

/-- Every instruction binds the variable of a cell within the limits of a sheet. -/
def Session.OnSheet (s : Session) : Prop :=
  ∀ i ∈ s.instructions.toList, ∃ c : Address, c.position.InSheet ∧ i.name = c.variableName

namespace Source

open SessionM

variable {src : Source}

theorem position_of_canonical {a c : Address} (h : src.canonical a = .ok c) :
    c.position = a.position := by
  unfold canonical at h
  split at h
  · rw [← Except.ok.inj h]
    rfl
  · cases h

/-- Formulas lead to cells on a sheet. -/
theorem DependsOn.inSheet {c d : Address} (h : src.DependsOn c d) : d.position.InSheet := by
  obtain ⟨ts, -, ref, -, named, hnamed, hd, -⟩ := h
  exact Workbook.inSheet_of_resolve hnamed d hd

/-- Requests for cells on a sheet lead to no others, whether they succeed or not. -/
theorem onSheet_of_ensure {asked : List Address} (hasked : ∀ a ∈ asked, a.position.InSheet)
    {result : Except Error (List String)} {s : Session}
    (h : asked.mapM src.ensure {} = (result, s)) : s.OnSheet := by
  have hinside : ∀ a ∈ asked, ∀ c, src.canonical a = .ok c → c.position.InSheet := by
    intro a ha c hc
    rw [position_of_canonical hc]
    exact hasked a ha
  obtain ⟨cells, hgrown, -⟩ := does_ensureAll (T := fun c => c.position.InSheet)
    (fun _ _ _ hdepends => hdepends.inSheet) Session.Sound.fresh rfl hinside
  rw [h] at hgrown
  obtain ⟨new, hnew, hlimits⟩ := hgrown.grown
  intro i hi
  have hname := List.mem_map_of_mem (f := Instruction.name) hi
  rw [hgrown.sound.compiled.names] at hname
  obtain ⟨c, hc, hcname⟩ := List.mem_map.mp hname
  rw [hnew] at hc
  exact ⟨c, hlimits c (by simpa using hc), hcname.symm⟩

/-- After successful requests, instructions on a sheet come from requests on a sheet. -/
theorem onSheet_iff_of_ensure {asked : List Address} {names : List String} {s : Session}
    (h : asked.mapM src.ensure {} = (.ok names, s))
    (htitle : ∀ a ∈ asked, src.workbook.HasTitle a.sheet) :
    s.OnSheet ↔ ∀ a ∈ asked, a.position.InSheet := by
  refine ⟨fun hon a ha => ?_, fun hasked => onSheet_of_ensure hasked h⟩
  obtain ⟨cells, hsound, -, hcells⟩ := exists_sound_of_ensure h
  have hmem : a ∈ cells := (hcells a).mpr ⟨a, ha, a, canonical_of_hasTitle (htitle a ha), .refl⟩
  have hname := List.mem_map_of_mem (f := Address.variableName) hmem
  rw [← hsound.compiled.names] at hname
  obtain ⟨i, hi, hiname⟩ := List.mem_map.mp hname
  obtain ⟨c, hc, hcname⟩ := hon i hi
  -- cells with one variable have one position
  obtain ⟨hrow, hcol, -⟩ := Address.variableName_eq_iff.mp (hcname.symm.trans hiname)
  have hposition : a.position = c.position := by
    rw [Address.position, Address.position, hrow, hcol]
  rw [hposition]
  exact hc

/-- The outputs of a usable layout complain about a coordinate only where a table begins outside. -/
theorem exists_beginsOutside (husable : src.layout.Usable) {why : Error} {s : Session}
    (h : src.outputs {} = (.error why, s)) (hwhy : why.Misplaced) :
    ∃ entry ∈ src.layout.entries, entry.BeginsOutside := by
  rcases (asks_outputs src).of_error h with hfail | ⟨hown, -⟩
  · exact absurd hwhy ((keeps_ensureAll src.course_placed _).of_error hfail)
  · -- the layout cannot be read, and the reason is a coordinate
    cases hown with
    | sheet => cases hwhy
    | entry hentry hmisread =>
      refine ⟨_, hentry, ?_⟩
      cases hmisread with
      | coordinate hmem hnone => exact (husable.entries _ hentry).beginsOutside hmem hnone
      | columns => cases hwhy

/-- The instructions of a session lie on a sheet when all that the layout asks for does. -/
theorem onSheet_outputs (hasked : ∀ a ∈ src.layout.requests src.workbook, a.position.InSheet)
    {result : Except Error (List Output)} {s : Session} (h : src.outputs {} = (result, s)) :
    s.OnSheet := by
  cases result with
  | ok os =>
    obtain ⟨names, hnames⟩ := (asks_outputs src).of_ok h
    exact onSheet_of_ensure hasked hnames
  | error why =>
    -- the requests were made up to one of them, which failed or was the last before another error
    rcases (asks_outputs src).of_error h with hfail | ⟨-, begun, names, hbegun, hnames⟩
    · exact onSheet_of_ensure hasked hfail
    · exact onSheet_of_ensure (fun a ha => hasked a (hbegun.subset ha)) hnames

/-- **What a checked layout leads to lies on a sheet if its tables end there.**  The positions that
its outputs go by lie on a sheet exactly if the tables fit.  If they do, no coordinate is refused and
every instruction is about a cell on a sheet, whether the work succeeds or not.  A coordinate is
refused only where a table begins outside; and when the work succeeds, the instructions stay on a
sheet exactly if the cells that the layout asks for do. -/
theorem outputs_onSheet (src : Source) (hcheck : src.layout.check = .ok ())
    {result : Except Error (List Output)} {s : Session} (h : src.outputs {} = (result, s)) :
    ((∀ p ∈ src.layout.positions src.workbook, p.InSheet) ↔ src.layout.Fits src.workbook) ∧
      (src.layout.Fits src.workbook →
        (∀ text, result ≠ .error (.resolution ⟨text, .notCoordinate⟩)) ∧ s.OnSheet) ∧
      (∀ text, result = .error (.resolution ⟨text, .notCoordinate⟩) →
        ∃ entry ∈ src.layout.entries, entry.BeginsOutside) ∧
      ∀ os, result = .ok os →
        (s.OnSheet ↔ ∀ a ∈ src.layout.requests src.workbook, a.position.InSheet) := by
  have husable := Layout.check_eq_ok_iff.mp hcheck
  have hfits : (∀ p ∈ src.layout.positions src.workbook, p.InSheet) ↔
      src.layout.Fits src.workbook := Layout.positions_inSheet_iff husable
  have hrefused : ∀ text, result = .error (.resolution ⟨text, .notCoordinate⟩) →
      ∃ entry ∈ src.layout.entries, entry.BeginsOutside := by
    rintro text rfl
    exact exists_beginsOutside husable h rfl
  refine ⟨hfits, fun hfit => ⟨?_, ?_⟩, hrefused, ?_⟩
  · intro text hresult
    obtain ⟨entry, hentry, houtside⟩ := hrefused text hresult
    -- a table that fits begins on the sheet, and without the sheet nothing is read
    cases hsheet : src.workbook.sheet? src.layout.defaultSheet with
    | none =>
      rw [hresult, outputs, hsheet] at h
      cases h
    | some sheet =>
      exact (husable.entries entry hentry).not_beginsOutside (hfit sheet hsheet entry hentry)
        houtside
  · refine onSheet_outputs (fun a ha => ?_) h
    exact hfits.mpr hfit _ (Layout.position_mem_of_mem_requests ha)
  · rintro os rfl
    obtain ⟨names, hnames⟩ := (asks_outputs src).of_ok h
    exact onSheet_iff_of_ensure hnames fun a => Layout.hasTitle_of_mem_requests

/-- The two columns of the table end in the rows below their last members. -/
theorem outputs_onSheet_mixedTable :
    mixedTable.layout.check = .ok () ∧ mixedTable.layout.Fits mixedTable.workbook ∧
      (∀ p ∈ mixedTable.layout.positions mixedTable.workbook, p.InSheet) ∧
      (mixedTable.outputs {}).2.OnSheet ∧
      ∀ text, (mixedTable.outputs {}).1 ≠ .error (.resolution ⟨text, .notCoordinate⟩) := by
  obtain ⟨hcheck, hfits⟩ : mixedTable.layout.check = .ok () ∧
      mixedTable.layout.Fits mixedTable.workbook := by decide
  obtain ⟨hpositions, hwork, -⟩ := outputs_onSheet mixedTable hcheck (Prod.eta _).symm
  exact ⟨hcheck, hfits, hpositions.mpr hfits, (hwork hfits).2, (hwork hfits).1⟩

end Source

/-- A table on an empty sheet, with one column of one row. -/
def loneTable (headerRow firstRow : Nat) : Source where
  workbook := { sheets := [Sheet.new "report"] }
  layout := { entries := [.table [] "B" "B" headerRow firstRow 1] }

/-- The check accepts a table with its header below the sheet, which then cannot be read, and one
with its total below the sheet, which gets an instruction for it. -/
theorem check_accepts_rows_outside :
    (loneTable 1048577 5).layout.check = .ok () ∧
      ((loneTable 1048577 5).outputs {}).1 =
        .error (.resolution ⟨"B1048577", .notCoordinate⟩) ∧
      (loneTable 1 1048576).layout.check = .ok () ∧
      ((loneTable 1 1048576).outputs {}).2.instructions.toList.map Instruction.name =
        [Address.variableName ⟨"report", 1048575, 1⟩, Address.variableName ⟨"report", 1048576, 1⟩] ∧
      ¬ (⟨1048576, 1⟩ : Coordinate).InSheet := by
  decide +kernel

end ReportCompiler
