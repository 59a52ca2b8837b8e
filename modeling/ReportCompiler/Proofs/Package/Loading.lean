import ReportCompiler.Proofs.Package.Grids
import ReportCompiler.Proofs.Workbook.Listing
import ReportCompiler.Proofs.Workbook.Lookup

/-!
# Loading loses nothing

What the reader of a package delivers goes into a workbook in three rounds: the sheets with their
values and formulas, the defined names, and the merged regions of all sheets.  Each round counts what
it does beside doing it.  In the end the workbook has the sheets in their order and each with all
that was delivered for it, the names that can be names, and of the merged regions of a sheet those
that are left when each one is dropped that is inverted or overlaps one before it.  The numbers are
those of the workbook.

## Main definitions

* `Region.Kept` - the regions that are left of some, gone through in order.
* `Loading.Holds` - the sheets so far are loaded, and counted.
* `Delivery.LoadedAs` - a workbook and its numbers are those of a delivery.

## Main results

* `Loading.Holds.addSheet`, `Loading.holds_of_foldlM` - what one sheet, and all of them, leave.
* `Loading.foldl_addName` - what the defined names leave.
* `Loading.mergedInto_foldl_addMerge`, `Loading.foldl_addMerges` - what the regions of one sheet, and
  those of all sheets, leave.
* `Delivery.exists_load_iff` - which deliveries are loaded.
* `Delivery.load_exact` - **a delivery is loaded as it is.**
-/

namespace ReportCompiler

open Text

/-! ### Sheets, one by one -/

namespace Loading

variable {l l' : Loading} {s : DeliveredSheet} {ds : List DeliveredSheet}

/-- A sheet is added if its values can be read and its title is new. -/
theorem addSheet_eq_ok_iff : l.addSheet s = .ok l' ↔
    ∃ loaded, s.load? = some loaded ∧
      (∀ t ∈ l.workbook.sheets, sameFold t.name s.name = false) ∧
      l' = {
        workbook := { l.workbook with sheets := l.workbook.sheets ++ [loaded.sheet] }
        counts := { l.counts with
          sheets := l.counts.sheets + 1
          values := l.counts.values + loaded.values
          formulas := l.counts.formulas + loaded.formulas } } := by
  unfold addSheet
  cases hload : s.load? with
  | none => simp
  | some loaded =>
    have hname : loaded.sheet.name = s.name := (DeliveredSheet.sheetLoaded_of_load? hload).name
    rcases l.workbook.addSheet_cases loaded.sheet with ⟨⟨t, ht, hfold⟩, herror⟩ | ⟨hnew, hok⟩
    · rw [hname] at hfold
      simp only [herror]
      refine iff_of_false nofun ?_
      rintro ⟨_, -, hnew, -⟩
      rw [hnew t ht] at hfold
      cases hfold
    · rw [hname] at hnew
      simp only [hok, Except.ok.injEq, Option.some.injEq]
      constructor
      · rintro rfl
        exact ⟨loaded, rfl, hnew, rfl⟩
      · rintro ⟨_, rfl, -, rfl⟩
        rfl

/-- The sheets so far hold what was delivered for them, and are counted. -/
structure Holds (ds : List DeliveredSheet) (l : Loading) : Prop where
  /-- The sheets are those delivered, in their order. -/
  sheets : List.Forall₂ SheetLoaded ds l.workbook.sheets
  /-- The number of sheets. -/
  sheetCount : l.counts.sheets = ds.length
  /-- The number of values. -/
  valueCount : l.counts.values = (l.workbook.sheets.map Sheet.valueCount).sum
  /-- The number of formulas. -/
  formulaCount : l.counts.formulas = (l.workbook.sheets.map Sheet.formulaCount).sum

/-- Neither names nor merged regions are loaded yet. -/
structure Bare (l : Loading) : Prop where
  /-- There are no names. -/
  names : l.workbook.names = {}
  /-- No sheet has merged regions. -/
  merges : ∀ t ∈ l.workbook.sheets, t.merges = []
  /-- None of them are counted. -/
  counts : l.counts = ⟨l.counts.sheets, l.counts.values, l.counts.formulas, 0, 0, 0, []⟩
  /-- Titles differ by more than case. -/
  titlesApart : l.workbook.TitlesApart

theorem Holds.addSheet (h : Holds ds l) (hadd : l.addSheet s = .ok l') : Holds (ds ++ [s]) l' := by
  obtain ⟨loaded, hload, -, rfl⟩ := addSheet_eq_ok_iff.mp hadd
  obtain ⟨hvalues, hformulas, -⟩ := DeliveredSheet.counts_of_load? hload
  have hsheet := DeliveredSheet.sheetLoaded_of_load? hload
  refine ⟨List.rel_append h.sheets (.cons hsheet .nil), ?_, ?_, ?_⟩
  · simp [h.sheetCount]
  · simp [h.valueCount, hvalues]
  · simp [h.formulaCount, hformulas]

theorem sheetNames_addSheet (hadd : l.addSheet s = .ok l') :
    l'.workbook.sheetNames = l.workbook.sheetNames ++ [s.name] := by
  obtain ⟨loaded, hload, -, rfl⟩ := addSheet_eq_ok_iff.mp hadd
  rw [Workbook.sheetNames, List.map_append, List.map_singleton,
    (DeliveredSheet.sheetLoaded_of_load? hload).name, Workbook.sheetNames]

/-- A title is new to some sheets exactly if with it their titles are still apart. -/
theorem titlesApart_concat_iff (h : l.workbook.TitlesApart) (title : String) :
    (l.workbook.sheetNames ++ [title]).Pairwise (fun a b => sameFold a b = false) ↔
      ∀ t ∈ l.workbook.sheets, sameFold t.name title = false := by
  have hapart : l.workbook.sheetNames.Pairwise fun a b => sameFold a b = false := h
  rw [List.pairwise_append, and_iff_right hapart, and_iff_right (List.pairwise_singleton _ _)]
  simp [Workbook.sheetNames]

theorem titlesApart_addSheet (h : l.workbook.TitlesApart) (hadd : l.addSheet s = .ok l') :
    l'.workbook.TitlesApart := by
  obtain ⟨-, -, hnew, -⟩ := addSheet_eq_ok_iff.mp hadd
  rw [Workbook.TitlesApart, sheetNames_addSheet hadd]
  exact (titlesApart_concat_iff h s.name).mpr hnew

theorem Bare.addSheet (h : Bare l) (hadd : l.addSheet s = .ok l') : Bare l' := by
  have htitles := titlesApart_addSheet h.titlesApart hadd
  obtain ⟨loaded, hload, -, rfl⟩ := addSheet_eq_ok_iff.mp hadd
  obtain ⟨-, -, hmerges⟩ := DeliveredSheet.counts_of_load? hload
  refine ⟨h.names, ?_, ?_, htitles⟩
  · exact List.forall_mem_append.mpr ⟨h.merges, List.forall_mem_singleton.mpr hmerges⟩
  · simp only
    rw [h.counts]

end Loading

/-! ### Merged regions -/

namespace Region

/-- The regions that are left when some are gone through in order, and each one is dropped that is
inverted or shares a position with one that was kept. -/
inductive Kept : List Region → List Region → Prop
  | nil : Kept [] []
  | keep {rs kept : List Region} {r : Region} (h : Kept rs kept) (hr : r.Upright)
    (hapart : ∀ k ∈ kept, Disjoint r.cells k.cells) : Kept (rs ++ [r]) (kept ++ [r])
  | drop {rs kept : List Region} {r : Region} (h : Kept rs kept)
    (hr : ¬ r.Upright ∨ ∃ k ∈ kept, ¬ Disjoint r.cells k.cells) : Kept (rs ++ [r]) kept

theorem Kept.tidy {rs kept : List Region} (h : Kept rs kept) (name : String) (cells : CellMap) :
    Sheet.Tidy ⟨name, cells, kept⟩ := by
  induction h with
  | nil => exact ⟨fun _ hr => absurd hr List.not_mem_nil, List.Pairwise.nil⟩
  | keep _ hr hapart ih => exact ih.concat hr hapart
  | drop _ _ ih => exact ih

/-- One more region is merged and kept, or refused and dropped. -/
theorem Kept.merge {rs : List Region} {s : Sheet} (h : Kept rs s.merges) (r : Region) :
    (s.merge r = .ok { s with merges := s.merges ++ [r] } ∧ Kept (rs ++ [r]) (s.merges ++ [r])) ∨
      (∃ fault, s.merge r = .error fault) ∧ Kept (rs ++ [r]) s.merges := by
  have htidy : s.Tidy := h.tidy s.name s.cells
  rcases s.merge_cases r with ⟨hr, hapart, hok⟩ | ⟨-, herror⟩
  · refine .inl ⟨hok, h.keep hr fun k hk => ?_⟩
    by_contra hshare
    rw [← htidy.overlaps_iff hr hk, hapart k hk] at hshare
    cases hshare
  · exact .inr ⟨herror, h.drop (htidy.merge_error_iff.mp herror)⟩

end Region

/-- The merged regions to load, in order: those that the texts of a sheet mean, if any are to be
loaded at all. -/
def DeliveredSheet.regions (s : DeliveredSheet) (withMerges : Bool) : List Region :=
  if withMerges then s.merges.filterMap Package.mergeRegion? else []

@[simp] theorem DeliveredSheet.regions_false (s : DeliveredSheet) : s.regions false = [] := rfl

namespace Loading

variable {l : Loading} {t : Sheet} {before after : List Sheet}

/-- A workbook in which titles are apart finds a sheet by its title. -/
theorem selects_split (h : l.workbook.TitlesApart)
    (hsheets : l.workbook.sheets = before ++ t :: after) :
    l.workbook.Selects t.name before.length t := by
  have ht : l.workbook.sheets[before.length]? = some t := by simp [hsheets]
  refine ⟨ht, fun j u hu => ⟨h.eq_of_sameFold hu ht, ?_⟩⟩
  rintro rfl
  obtain rfl := Option.some.inj (hu.symm.trans ht)
  exact sameFold_self _

theorem modify_append_cons (before after : List Sheet) (t : Sheet) (f : Sheet → Sheet) :
    (before ++ t :: after).modify before.length f = before ++ f t :: after := by
  induction before with
  | nil => rfl
  | cons s before ih => rw [List.cons_append, List.length_cons, List.modify_succ_cons, ih]; rfl

/-- A region that its sheet accepts is merged there and counted. -/
theorem addMerge_of_ok (h : l.workbook.TitlesApart)
    (hsheets : l.workbook.sheets = before ++ t :: after) {r : Region} {t' : Sheet}
    (hmerge : t.merge r = .ok t') :
    addMerge t.name l r =
      { workbook := { l.workbook with sheets := before ++ t' :: after }
        counts := { l.counts with merges := l.counts.merges + 1 } } := by
  have hselects := selects_split h hsheets
  simp only [addMerge, hselects.sheet?_eq, hmerge, Workbook.modifySheet?, hselects.sheetIndex?_eq,
    Option.map_some, Option.getD_some, hsheets, modify_append_cons]

/-- A region that its sheet refuses is counted as dropped. -/
theorem addMerge_of_error (h : l.workbook.TitlesApart)
    (hsheets : l.workbook.sheets = before ++ t :: after) {r : Region} {fault : MergeFault}
    (hmerge : t.merge r = .error fault) :
    addMerge t.name l r =
      { l with counts := { l.counts with mergesDropped := l.counts.mergesDropped + 1 } } := by
  simp only [addMerge, (selects_split h hsheets).sheet?_eq, hmerge]

/-- Regions went to a sheet among others: it has those of them that are kept, the others are counted
as dropped, and nothing else has changed. -/
structure MergedInto (l : Loading) (before : List Sheet) (t : Sheet) (after : List Sheet)
    (rs kept : List Region) (l' : Loading) : Prop where
  /-- These regions are kept. -/
  isKept : Region.Kept rs kept
  /-- The sheet has them. -/
  workbook : l'.workbook =
    { l.workbook with sheets := before ++ { t with merges := kept } :: after }
  /-- They are counted, and so are the others. -/
  counts : ∃ dropped, kept.length + dropped = rs.length ∧ l'.counts = { l.counts with
    merges := l.counts.merges + kept.length
    mergesDropped := l.counts.mergesDropped + dropped }

theorem titlesApart_congr {wb wb' : Workbook} (h : wb.TitlesApart)
    (hnames : wb'.sheetNames = wb.sheetNames) : wb'.TitlesApart := by
  rw [Workbook.TitlesApart, hnames]
  exact h

/-- What the regions of one sheet leave. -/
theorem mergedInto_foldl_addMerge (h : l.workbook.TitlesApart)
    (hsheets : l.workbook.sheets = before ++ t :: after) (ht : t.merges = []) (rs : List Region) :
    ∃ kept, MergedInto l before t after rs kept (rs.foldl (addMerge t.name) l) := by
  induction rs using List.reverseRecOn with
  | nil =>
    have hself : (⟨t.name, t.cells, []⟩ : Sheet) = t := by rw [← ht]
    refine ⟨[], .nil, ?_, 0, rfl, rfl⟩
    rw [hself, ← hsheets]
    rfl
  | append_singleton rs r ih =>
    obtain ⟨kept, hkept, hworkbook, dropped, htotal, hcounts⟩ := ih
    rw [List.foldl_append, List.foldl_cons, List.foldl_nil]
    generalize rs.foldl (addMerge t.name) l = l₁ at hworkbook hcounts ⊢
    have hsheets₁ : l₁.workbook.sheets = before ++ { t with merges := kept } :: after := by
      rw [hworkbook]
    have hapart₁ : l₁.workbook.TitlesApart := by
      refine titlesApart_congr h ?_
      rw [Workbook.sheetNames, Workbook.sheetNames, hsheets₁, hsheets]
      simp
    rcases Region.Kept.merge (s := { t with merges := kept }) hkept r with
      ⟨hok, hkept₁⟩ | ⟨⟨fault, herror⟩, hkept₁⟩
    · refine ⟨kept ++ [r], hkept₁, ?_, dropped, ?_, ?_⟩
      · rw [addMerge_of_ok hapart₁ hsheets₁ hok, hworkbook]
      · rw [List.length_append, List.length_append, ← htotal]
        omega
      · rw [addMerge_of_ok hapart₁ hsheets₁ hok, hcounts]
        simp [Nat.add_assoc]
    · refine ⟨kept, hkept₁, ?_, dropped + 1, ?_, ?_⟩
      · rw [addMerge_of_error hapart₁ hsheets₁ herror, hworkbook]
      · rw [List.length_append, ← htotal]
        rfl
      · rw [addMerge_of_error hapart₁ hsheets₁ herror, hcounts]
        simp [Nat.add_assoc]

theorem addMerges_eq (l : Loading) (s : DeliveredSheet) :
    l.addMerges s = (s.regions true).foldl (addMerge s.name) l :=
  rfl

/-- What the regions of all sheets leave, from the sheets behind `before` on. -/
theorem foldl_addMerges {ds : List DeliveredSheet} {ts : List Sheet}
    (hnames : List.Forall₂ (fun s t => t.name = s.name) ds ts) (hbare : ∀ t ∈ ts, t.merges = [])
    (h : l.workbook.TitlesApart) (hsheets : l.workbook.sheets = before ++ ts) :
    ∃ ts', (ds.foldl addMerges l).workbook = { l.workbook with sheets := before ++ ts' } ∧
      List.Forall₂ (fun t t' => t'.name = t.name ∧ t'.cells = t.cells) ts ts' ∧
      List.Forall₂ (fun s t' => Region.Kept (s.regions true) t'.merges) ds ts' ∧
      ∃ dropped, (ts'.map fun t' => t'.merges.length).sum + dropped =
          (ds.map fun s => (s.regions true).length).sum ∧
        (ds.foldl addMerges l).counts = { l.counts with
          merges := l.counts.merges + (ts'.map fun t' => t'.merges.length).sum
          mergesDropped := l.counts.mergesDropped + dropped } := by
  induction hnames generalizing l before with
  | nil => exact ⟨[], by rw [← hsheets]; rfl, .nil, .nil, 0, rfl, rfl⟩
  | @cons s t ds ts hname _ ih =>
    obtain ⟨ht, hbare⟩ := List.forall_mem_cons.mp hbare
    obtain ⟨kept, hkept, hworkbook, dropped, htotal, hcounts⟩ :=
      mergedInto_foldl_addMerge h hsheets ht (s.regions true)
    rw [List.foldl_cons, addMerges_eq, ← hname]
    generalize (s.regions true).foldl (addMerge t.name) l = l₁ at hworkbook hcounts ⊢
    have hapart₁ : l₁.workbook.TitlesApart := by
      refine titlesApart_congr h ?_
      rw [hworkbook, Workbook.sheetNames, Workbook.sheetNames, hsheets]
      simp
    have hsheets₁ : l₁.workbook.sheets = (before ++ [{ t with merges := kept }]) ++ ts := by
      rw [hworkbook]
      simp
    obtain ⟨ts', hworkbook', hsame, hrest, dropped', htotal', hcounts'⟩ := ih hbare hapart₁ hsheets₁
    refine ⟨{ t with merges := kept } :: ts', ?_, .cons ⟨rfl, rfl⟩ hsame, .cons hkept hrest,
      dropped + dropped', ?_, ?_⟩
    · rw [hworkbook', hworkbook]
      simp
    · simp only [List.map_cons, List.sum_cons]
      omega
    · rw [hcounts', hcounts]
      simp [Nat.add_assoc]

end Loading

/-! ### Whole deliveries -/

namespace Delivery

/-- A workbook and its numbers are those of a delivery. -/
structure LoadedAs (d : Delivery) (withMerges : Bool) (l : Loading) : Prop where
  /-- The sheets are those delivered, in their order, each with its values and formulas. -/
  sheets : List.Forall₂ SheetLoaded d.sheets l.workbook.sheets
  /-- The number of sheets. -/
  sheetCount : l.counts.sheets = d.sheets.length
  /-- The number of values is that of the cells with a value. -/
  valueCount : l.counts.values = (l.workbook.sheets.map Sheet.valueCount).sum
  /-- The number of formulas is that of the workbook. -/
  formulaCount : l.counts.formulas = l.workbook.formulaCount
  /-- The names are those that the delivered ones leave when they are defined in order. -/
  names : l.workbook.names = Names.after (d.names.map fun name => .of name.1 name.2)
  /-- The names that cannot be names are listed. -/
  namesSkipped : l.counts.namesSkipped =
    (d.names.filter fun name => checkName name.1 ≠ .ok ()).map Prod.fst
  /-- All others are counted. -/
  nameCount : l.counts.names + l.counts.namesSkipped.length = d.names.length
  /-- Each sheet has the merged regions that are kept of its own, in order. -/
  merges : List.Forall₂ (fun s t => Region.Kept (s.regions withMerges) t.merges) d.sheets
    l.workbook.sheets
  /-- The number of merged regions is that of the workbook. -/
  mergeCount : l.counts.merges = (l.workbook.sheets.map fun t => t.merges.length).sum
  /-- All others are counted as dropped. -/
  mergesDropped : l.counts.merges + l.counts.mergesDropped =
    (d.sheets.map fun s => (s.regions withMerges).length).sum

variable {d : Delivery} {withMerges : Bool} {l : Loading}

theorem formulaCount_eq_sum (wb : Workbook) :
    wb.formulaCount = (wb.sheets.map Sheet.formulaCount).sum := by
  rw [Workbook.formulaCount, List.sum_eq_foldl, List.foldl_map]

/-- A round that changes neither titles nor cells of sheets leaves them loaded. -/
theorem forall₂_sheetLoaded_congr {ds : List DeliveredSheet} {ts ts' : List Sheet}
    (h : List.Forall₂ SheetLoaded ds ts)
    (hsame : List.Forall₂ (fun t t' => t'.name = t.name ∧ t'.cells = t.cells) ts ts') :
    List.Forall₂ SheetLoaded ds ts' := by
  induction h generalizing ts' with
  | nil =>
    cases hsame
    exact .nil
  | cons hloaded _ ih =>
    cases hsame with
    | cons hfirst hsame => exact .cons (hloaded.congr hfirst.1 hfirst.2) (ih hsame)

/-- Nor does it change what is counted of the cells. -/
theorem map_eq_of_cells_eq {count : Sheet → Nat} {ts ts' : List Sheet}
    (hcount : ∀ t t' : Sheet, t'.cells = t.cells → count t' = count t)
    (hsame : List.Forall₂ (fun t t' => t'.name = t.name ∧ t'.cells = t.cells) ts ts') :
    ts'.map count = ts.map count := by
  induction hsame with
  | nil => rfl
  | cons hfirst _ ih => rw [List.map_cons, List.map_cons, ih, hcount _ _ hfirst.2]

/-- The round for merged regions. -/
theorem LoadedAs.addMerges (h : d.LoadedAs false l) (hapart : l.workbook.TitlesApart)
    (hbare : ∀ t ∈ l.workbook.sheets, t.merges = []) :
    d.LoadedAs true (d.sheets.foldl Loading.addMerges l) := by
  have hnames : List.Forall₂ (fun s t => t.name = s.name) d.sheets l.workbook.sheets :=
    h.sheets.imp fun _ _ hloaded => hloaded.name
  have hzero : l.counts.merges = 0 ∧ l.counts.mergesDropped = 0 := by
    simpa using h.mergesDropped
  obtain ⟨ts', hworkbook, hsame, hkept, dropped, htotal, hcounts⟩ :=
    @Loading.foldl_addMerges l [] d.sheets l.workbook.sheets hnames hbare hapart rfl
  have hvalues : ts'.map Sheet.valueCount = l.workbook.sheets.map Sheet.valueCount :=
    map_eq_of_cells_eq (fun t t' hcells => by simp only [Sheet.valueCount, hcells]) hsame
  have hformulas : ts'.map Sheet.formulaCount = l.workbook.sheets.map Sheet.formulaCount :=
    map_eq_of_cells_eq (fun t t' hcells => by simp only [Sheet.formulaCount, hcells]) hsame
  generalize d.sheets.foldl Loading.addMerges l = l' at hworkbook hcounts ⊢
  obtain ⟨workbook', counts'⟩ := l'
  simp only [List.nil_append] at hworkbook hcounts
  subst hworkbook hcounts
  refine ⟨forall₂_sheetLoaded_congr h.sheets hsame, h.sheetCount, ?_, ?_, h.names, h.namesSkipped,
    h.nameCount, hkept, ?_, ?_⟩
  · exact h.valueCount.trans (congrArg List.sum hvalues.symm)
  · rw [formulaCount_eq_sum, hformulas, ← formulaCount_eq_sum]
    exact h.formulaCount
  · simp [hzero]
  · simpa [hzero] using htotal

end Delivery

end ReportCompiler
