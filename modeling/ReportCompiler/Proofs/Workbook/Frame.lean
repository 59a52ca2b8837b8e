import ReportCompiler.Workbook.Reference

/-!
# The frame of a workbook

The titles of the sheets, the merged regions and the defined names are the frame of a workbook.  It
alone decides which cells a reference names and which cells are covered, whatever stands in them.

## Main definitions

* `Sheet.frame` - the title and the merged regions of a sheet.
* `Workbook.SameFrame` - two workbooks that differ at most in what stands in their cells.

## Main results

* `SameFrame.sheet?_cases` - a title names sheets with the same frame, or none in both workbooks.
* `SameFrame.resolve` - a reference names the same cells.
* `SameFrame.merged_iff` - the same cells are covered.
-/

namespace ReportCompiler

/-- The title and the merged regions of a sheet. -/
def Sheet.frame (s : Sheet) : String × List Region :=
  (s.name, s.merges)

theorem Sheet.kind_eq_merged_iff (s : Sheet) (p : Coordinate) :
    s.kind p = .merged ↔ s.isHidden p := by
  unfold Sheet.kind
  split
  case isTrue hhidden => simp [hhidden]
  case isFalse hhidden => split <;> simp [hhidden]

namespace Workbook

/-- The two workbooks have sheets with the same titles and merged regions, in the same order, and
the same defined names. -/
structure SameFrame (wb wb' : Workbook) : Prop where
  /-- The sheets have the same frames. -/
  sheets : wb'.sheets.map Sheet.frame = wb.sheets.map Sheet.frame
  /-- The same names are defined. -/
  names (text : String) : wb'.names.get? text = wb.names.get? text

namespace SameFrame

variable {wb wb' : Workbook}

theorem refl (wb : Workbook) : wb.SameFrame wb :=
  ⟨rfl, fun _ => rfl⟩

theorem symm (h : wb.SameFrame wb') : wb'.SameFrame wb :=
  ⟨h.sheets.symm, fun text => (h.names text).symm⟩

/-! ### Sheets -/

/-- A search that goes by titles finds sheets with the same frame. -/
theorem find?_frame (h : wb.SameFrame wb') (p : String → Bool) :
    (wb'.sheets.find? fun s => p s.name).map Sheet.frame =
      (wb.sheets.find? fun s => p s.name).map Sheet.frame := by
  have hmap (sheets : List Sheet) : (sheets.find? fun s => p s.name).map Sheet.frame =
      (sheets.map Sheet.frame).find? fun f => p f.1 := by
    rw [List.find?_map]
    rfl
  rw [hmap, hmap, h.sheets]

theorem sheet?_frame (h : wb.SameFrame wb') (title : String) :
    (wb'.sheet? title).map Sheet.frame = (wb.sheet? title).map Sheet.frame := by
  rw [sheet?, sheet?, Option.map_or, Option.map_or, h.find?_frame (· == title),
    h.find?_frame (Text.sameFold · title)]

/-- A title names a sheet in both workbooks or in none. -/
theorem sheet?_cases (h : wb.SameFrame wb') (title : String) :
    (wb.sheet? title = none ∧ wb'.sheet? title = none) ∨
      ∃ s s', wb.sheet? title = some s ∧ wb'.sheet? title = some s' ∧ s'.name = s.name ∧
        s'.merges = s.merges := by
  have hframe := h.sheet?_frame title
  cases hs : wb.sheet? title with
  | none =>
    rw [hs, Option.map_none, Option.map_eq_none_iff] at hframe
    exact .inl ⟨rfl, hframe⟩
  | some s =>
    rw [hs, Option.map_some] at hframe
    obtain ⟨s', hs', heq⟩ := Option.map_eq_some_iff.mp hframe
    exact .inr ⟨s, s', rfl, hs', congrArg Prod.fst heq, congrArg Prod.snd heq⟩

/-- The same cells are covered by merged regions. -/
theorem merged_iff (h : wb.SameFrame wb') (cell : Address) :
    wb'.kind cell = .merged ↔ wb.kind cell = .merged := by
  unfold kind
  rcases h.sheet?_cases cell.sheet with ⟨hs, hs'⟩ | ⟨s, s', hs, hs', -, hmerges⟩
  · rw [hs, hs']
  · simp only [hs, hs', Sheet.kind_eq_merged_iff, Sheet.isHidden, hmerges]

/-! ### References -/

theorem resolveDirect (h : wb.SameFrame wb') (current : String) (cs : List Char) :
    wb'.resolveDirect current cs = wb.resolveDirect current cs := by
  unfold Workbook.resolveDirect
  refine bind_congr ?_
  -- only the title of the sheet that is found goes into the answer
  rintro ⟨_ | title, coord⟩
  · rcases h.sheet?_cases current with ⟨hs, hs'⟩ | ⟨s, s', hs, hs', hname, -⟩
    · simp only [hs, hs']
    · simp only [hs, hs', hname]
  · rcases h.sheet?_cases (String.ofList title) with ⟨hs, hs'⟩ | ⟨s, s', hs, hs', hname, -⟩
    · simp only [hs, hs']
    · simp only [hs, hs', hname]

theorem resolveThrough (h : wb.SameFrame wb') (current : String)
    (follow : String → Except ReferenceError Resolved) (raw : String) :
    wb'.resolveThrough current follow raw = wb.resolveThrough current follow raw := by
  unfold Workbook.resolveThrough
  simp only [h.names, h.resolveDirect]

theorem resolveWithin (h : wb.SameFrame wb') (current : String) (steps : Nat) :
    wb'.resolveWithin current steps = wb.resolveWithin current steps := by
  induction steps with
  | zero =>
    funext raw
    rw [Workbook.resolveWithin, Workbook.resolveWithin, h.resolveThrough]
  | succ steps ih =>
    funext raw
    rw [Workbook.resolveWithin, Workbook.resolveWithin, ih, h.resolveThrough]

/-- **A reference names the same cells in workbooks with the same frame.** -/
theorem resolve (h : wb.SameFrame wb') (current raw : String) :
    wb'.resolve current raw = wb.resolve current raw := by
  rw [Workbook.resolve, Workbook.resolve, h.resolveWithin]

end SameFrame

end Workbook

end ReportCompiler
