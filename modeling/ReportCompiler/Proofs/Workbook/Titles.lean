import Mathlib.Data.List.Perm.Subperm
import ReportCompiler.Workbook.Reference

/-!
# The sheets that cells lie on

A reference may spell the title of a sheet in any case of ASCII letters, or leave it out.  The cells
that it names always carry the title as the workbook writes it, so that one cell has one address.
That is why a workbook has no more addresses with a formula than it has formulas.

## Main definitions

* `Workbook.HasTitle` - some sheet has exactly this title.
* `Workbook.TitlesDistinct` - titles that are equal up to case are equal.
* `Workbook.Built` - the workbooks that can be built.
* `Workbook.formulaCells` - the addresses of all cells with a formula.

## Main results

* `exists_of_resolveDirect`, `exists_of_resolve` - what a reference can name.
* `hasTitle_of_resolve` - **the cells that a reference names lie on sheets of the workbook.**
* `Built.titlesDistinct` - a workbook that is built sheet by sheet has distinct titles.
* `HasTitle.exists_sheet?_fold` - titles that differ only in case name the same sheet.
* `length_le_formulaCount` - there are at most as many cells with a formula as the workbook counts.
-/

namespace ReportCompiler

instance : Std.LawfulEqCmp Coordinate.order where
  compare_self {a} := by simp [Coordinate.order, compareLex, compareOn]
  eq_of_compare {a b} h := by
    cases a
    cases b
    simpa [Coordinate.order, compareLex, compareOn, Ordering.then_eq_eq] using h

theorem Sheet.cell?_setCell (s : Sheet) (p q : Coordinate) (c : Cell) :
    (s.setCell p c).cell? q = if q = p then some c else s.cell? q := by
  simp only [Sheet.cell?, Sheet.setCell, Std.TreeMap.getElem?_insert,
    Std.LawfulEqCmp.compare_eq_iff_eq, eq_comm (a := p)]

namespace Workbook

variable {wb : Workbook}

/-! ### Titles -/

/-- Some sheet has exactly this title. -/
def HasTitle (wb : Workbook) (title : String) : Prop :=
  ∃ s ∈ wb.sheets, s.name = title

/-- Titles that are equal up to the case of ASCII letters are equal. -/
def TitlesDistinct (wb : Workbook) : Prop :=
  ∀ s ∈ wb.sheets, ∀ t ∈ wb.sheets, Text.sameFold s.name t.name → s.name = t.name

instance : Decidable wb.TitlesDistinct :=
  inferInstanceAs (Decidable (∀ s ∈ wb.sheets, ∀ t ∈ wb.sheets, _ → s.name = t.name))

/-- A sheet that is found is in the workbook, and its title is the one asked for up to case. -/
theorem of_sheet?_eq_some {title : String} {s : Sheet} (h : wb.sheet? title = some s) :
    s ∈ wb.sheets ∧ Text.sameFold s.name title := by
  rcases Option.or_eq_some_iff.mp h with hexact | ⟨-, hfold⟩
  · have hname : s.name = title := by simpa using List.find?_some hexact
    refine ⟨List.mem_of_find?_eq_some hexact, ?_⟩
    rw [hname, Text.sameFold_self]
  · exact ⟨List.mem_of_find?_eq_some hfold, by simpa using List.find?_some hfold⟩

theorem hasTitle_of_sheet? {title : String} {s : Sheet} (h : wb.sheet? title = some s) :
    wb.HasTitle s.name :=
  ⟨s, (of_sheet?_eq_some h).1, rfl⟩

/-- A title of the workbook names a sheet with this very title. -/
theorem HasTitle.exists_sheet? {title : String} (h : wb.HasTitle title) :
    ∃ s, wb.sheet? title = some s ∧ s.name = title := by
  obtain ⟨t, ht, hname⟩ := h
  have hsome : (wb.sheets.find? fun s => s.name == title).isSome :=
    List.find?_isSome.mpr ⟨t, ht, by simpa using hname⟩
  obtain ⟨s, hs⟩ := Option.isSome_iff_exists.mp hsome
  refine ⟨s, ?_, by simpa using List.find?_some hs⟩
  rw [sheet?, hs, Option.some_or]

/-- Where titles are distinct up to case, a title in another case names the same sheet. -/
theorem HasTitle.exists_sheet?_fold (hdistinct : wb.TitlesDistinct) {title spelling : String}
    (h : wb.HasTitle title) (hfold : Text.sameFold spelling title) :
    ∃ s, wb.sheet? spelling = some s ∧ s.name = title := by
  obtain ⟨t, ht, rfl⟩ := h
  have hfold' : Text.sameFold t.name spelling := Text.sameFold_comm _ _ ▸ hfold
  have hsome : (wb.sheet? spelling).isSome := by
    rw [sheet?, Option.isSome_or, Bool.or_eq_true]
    exact Or.inr (List.find?_isSome.mpr ⟨t, ht, hfold'⟩)
  obtain ⟨s, hs⟩ := Option.isSome_iff_exists.mp hsome
  obtain ⟨hmem, hsfold⟩ := of_sheet?_eq_some hs
  refine ⟨s, hs, hdistinct s hmem t ht ?_⟩
  -- both titles are the spelling up to case
  simp only [Text.sameFold, beq_iff_eq] at hsfold hfold ⊢
  exact hsfold.trans hfold

/-! ### Workbooks as they are built -/

/-- The workbooks that can be built: sheets are added one by one and changed, all but their titles,
and names are defined. -/
inductive Built : Workbook → Prop
  | new : Built {}
  | addSheet {wb wb' : Workbook} {s : Sheet} (h : Built wb) (hadd : wb.addSheet s = .ok wb') :
    Built wb'
  | modifySheet {wb wb' : Workbook} {title : String} {f : Sheet → Sheet} (h : Built wb)
    (hf : ∀ s, (f s).name = s.name) (hmodify : wb.modifySheet? title f = some wb') : Built wb'
  | defineName {wb wb' : Workbook} {name target : String} (h : Built wb)
    (hdefine : wb.defineName name target = .ok wb') : Built wb'

theorem titlesDistinct_congr {wb' : Workbook} (h : wb.TitlesDistinct)
    (hnames : wb'.sheets.map Sheet.name = wb.sheets.map Sheet.name) : wb'.TitlesDistinct := by
  intro s hs t ht hfold
  obtain ⟨s₀, hs₀, hsname⟩ := List.mem_map.mp (hnames ▸ List.mem_map_of_mem hs)
  obtain ⟨t₀, ht₀, htname⟩ := List.mem_map.mp (hnames ▸ List.mem_map_of_mem ht)
  rw [← hsname, ← htname] at hfold ⊢
  exact h s₀ hs₀ t₀ ht₀ hfold

/-- A change of a sheet that keeps its title keeps all titles. -/
theorem sheetNames_modify (wb : Workbook) (i : Nat) {f : Sheet → Sheet}
    (hf : ∀ s, (f s).name = s.name) :
    sheetNames { wb with sheets := wb.sheets.modify i f } = wb.sheetNames := by
  refine List.ext_getElem? fun j => ?_
  simp only [sheetNames, List.getElem?_map, List.getElem?_modify]
  cases wb.sheets[j]? with
  | none => rfl
  | some s =>
    simp only [Option.map_eq_map, Option.map_some]
    split
    · rw [hf]
    · rfl

/-- A sheet whose title no sheet has, in whatever case, keeps the titles distinct. -/
theorem TitlesDistinct.addSheet {wb' : Workbook} {s : Sheet} (h : wb.TitlesDistinct)
    (hadd : wb.addSheet s = .ok wb') : wb'.TitlesDistinct := by
  unfold Workbook.addSheet at hadd
  split at hadd
  case isTrue => cases hadd
  case isFalse hnew =>
    obtain rfl := Except.ok.inj hadd
    have hother : ∀ t ∈ wb.sheets, ¬ Text.sameFold t.name s.name := by
      intro t ht hfold
      refine hnew ?_
      rw [sheet?, Option.isSome_or, Bool.or_eq_true]
      exact Or.inr (List.find?_isSome.mpr ⟨t, ht, hfold⟩)
    intro a ha b hb hfold
    simp only [List.mem_append, List.mem_singleton] at ha hb
    rcases ha with ha | rfl <;> rcases hb with hb | rfl
    · exact h a ha b hb hfold
    · exact absurd hfold (hother a ha)
    · exact absurd (Text.sameFold_comm _ _ ▸ hfold) (hother b hb)
    · rfl

/-- **No workbook that can be built has two titles that are equal up to case.** -/
theorem Built.titlesDistinct (h : wb.Built) : wb.TitlesDistinct := by
  induction h with
  | new =>
    intro s hs
    cases hs
  | addSheet _ hadd ih => exact ih.addSheet hadd
  | @modifySheet wb wb' title f _ hf hmodify ih =>
    obtain ⟨i, -, rfl⟩ := Option.map_eq_some_iff.mp hmodify
    exact titlesDistinct_congr ih (sheetNames_modify wb i hf)
  | defineName _ hdefine ih =>
    unfold Workbook.defineName at hdefine
    split at hdefine
    · cases hdefine
    · obtain rfl := Except.ok.inj hdefine
      exact ih

/-! ### References -/

theorem sheet_of_mem_rectangle {sheet : String} {p q : Coordinate} {c : Address}
    (h : c ∈ rectangle sheet p q) : c.sheet = sheet := by
  obtain ⟨row, -, hrow⟩ := List.mem_flatMap.mp h
  obtain ⟨col, -, rfl⟩ := List.mem_map.mp hrow
  rfl

/-- A range is the rectangle between two corners that are read as coordinates. -/
theorem exists_of_resolveRange {sheet : String} {first last : List Char} {named : Resolved}
    (h : resolveRange sheet first last = .ok named) :
    ∃ t u p q, coordinate? t = some p ∧ coordinate? u = some q ∧
      named = .range (rectangle sheet p q) := by
  unfold resolveRange at h
  cases hlast : secondHalf sheet last with
  | error why => rw [hlast] at h; cases h
  | ok last =>
    simp only [hlast, bind, Except.bind] at h
    split at h
    · next p q hp hq =>
      split at h
      · exact ⟨_, _, p, q, hp, hq, (Except.ok.inj h).symm⟩
      · cases h
    · cases h

/-- What a text names directly is a cell or a range of a sheet, read from coordinates. -/
theorem exists_of_resolveDirect {current : String} {cs : List Char} {named : Resolved}
    (h : wb.resolveDirect current cs = .ok named) :
    ∃ sheet ∈ wb.sheets, (∃ t p, coordinate? t = some p ∧ named = .cell (.ofPosition sheet.name p)) ∨
      ∃ t u p q, coordinate? t = some p ∧ coordinate? u = some q ∧
        named = .range (rectangle sheet.name p q) := by
  unfold resolveDirect at h
  cases hsplit : splitSheet cs with
  | error why => rw [hsplit] at h; cases h
  | ok parts =>
    obtain ⟨title, coord⟩ := parts
    simp only [hsplit, bind, Except.bind] at h
    split at h
    · cases h
    · next sheet hsheet =>
      refine ⟨sheet, (of_sheet?_eq_some hsheet).1, ?_⟩
      split at h
      · exact Or.inr (exists_of_resolveRange h)
      · split at h
        · next p hp => exact Or.inl ⟨_, p, hp, (Except.ok.inj h).symm⟩
        · cases h

theorem exists_of_resolveThrough {current raw : String}
    {follow : String → Except ReferenceError Resolved} {named : Resolved}
    (h : wb.resolveThrough current follow raw = .ok named) :
    (∃ cs, wb.resolveDirect current cs = .ok named) ∨ ∃ target, follow target = .ok named := by
  unfold resolveThrough at h
  simp only at h
  split at h
  · cases h
  · cases h
  · split at h
    · exact Or.inr ⟨_, h⟩
    · split at h
      · next hdirect => exact Or.inl ⟨_, Except.ok.inj h ▸ hdirect⟩
      · cases h

/-- What a reference names is named by some text directly. -/
theorem exists_of_resolve {current raw : String} {named : Resolved}
    (h : wb.resolve current raw = .ok named) : ∃ cs, wb.resolveDirect current cs = .ok named := by
  unfold resolve at h
  generalize maxNameSteps = steps at h
  -- a defined name leads to another text, and only the last one counts
  induction steps generalizing raw with
  | zero =>
    rw [resolveWithin] at h
    exact (exists_of_resolveThrough h).resolve_right fun ⟨_, htarget⟩ => nomatch htarget
  | succ steps ih =>
    rw [resolveWithin] at h
    exact (exists_of_resolveThrough h).elim id fun ⟨_, htarget⟩ => ih htarget

/-- **The cells that a reference names lie on sheets of the workbook**, whose titles they carry as
the workbook writes them. -/
theorem hasTitle_of_resolve {current raw : String} {named : Resolved}
    (h : wb.resolve current raw = .ok named) : ∀ c ∈ named.cells, wb.HasTitle c.sheet := by
  obtain ⟨cs, hdirect⟩ := exists_of_resolve h
  obtain ⟨sheet, hsheet, ⟨t, p, -, rfl⟩ | ⟨t, u, p, q, -, -, rfl⟩⟩ := exists_of_resolveDirect hdirect
  · intro c hc
    rw [List.mem_singleton.mp hc]
    exact ⟨sheet, hsheet, rfl⟩
  · intro c hc
    rw [sheet_of_mem_rectangle hc]
    exact ⟨sheet, hsheet, rfl⟩

/-! ### Cells with a formula -/

/-- The addresses of the cells with a formula, sheet by sheet. -/
def formulaCells (wb : Workbook) : List Address :=
  wb.sheets.flatMap fun s =>
    (s.cells.toList.filter fun (_, c) => c.formula.isSome).map fun (p, _) => .ofPosition s.name p

theorem length_formulaCells (wb : Workbook) : wb.formulaCells.length = wb.formulaCount := by
  rw [formulaCells, List.length_flatMap, formulaCount, List.sum_eq_foldl, List.foldl_map]
  simp only [List.length_map, ← List.countP_eq_length_filter, Sheet.formulaCount]

theorem mem_formulaCells {c : Address} (htitle : wb.HasTitle c.sheet)
    (hformula : (wb.formula? c).isSome) : c ∈ wb.formulaCells := by
  obtain ⟨s, hs, hname⟩ := htitle.exists_sheet?
  obtain ⟨formula, hformula⟩ := Option.isSome_iff_exists.mp hformula
  obtain ⟨cell, hcell, hsome⟩ := Option.bind_eq_some_iff.mp hformula
  rw [cell?, hs, Option.bind_some, Sheet.cell?] at hcell
  refine List.mem_flatMap.mpr ⟨s, (of_sheet?_eq_some hs).1, List.mem_map.mpr ?_⟩
  refine ⟨(c.position, cell), List.mem_filter.mpr ⟨?_, ?_⟩, ?_⟩
  · exact Std.TreeMap.mem_toList_iff_getElem?_eq_some.mpr hcell
  · simp only [hsome, Option.isSome_some]
  · rw [hname]
    rfl

/-- Different cells with a formula on sheets of the workbook are at most as many as its formulas. -/
theorem length_le_formulaCount {cells : List Address} (hnodup : cells.Nodup)
    (hcells : ∀ c ∈ cells, wb.HasTitle c.sheet ∧ (wb.formula? c).isSome) :
    cells.length ≤ wb.formulaCount := by
  rw [← length_formulaCells]
  refine (hnodup.subperm ?_).length_le
  intro c hc
  exact mem_formulaCells (hcells c hc).1 (hcells c hc).2

end Workbook

end ReportCompiler
