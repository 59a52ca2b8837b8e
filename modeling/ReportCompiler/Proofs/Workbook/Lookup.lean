import ReportCompiler.Proofs.Workbook.Merges
import ReportCompiler.Proofs.Workbook.Titles

/-!
# Finding a sheet by its title

A title is looked up as it is written, and then once more with the case of ASCII letters ignored.
There are two such searches, one for the sheet and one for the place at which it is changed.  They
always agree, and since a workbook refuses a title that it has in another case, neither stage can
find one sheet where the other finds a second.  So whatever is written to a sheet under one spelling
of its title is read under every other.

## Main definitions

* `Workbook.TitlesApart` - no two titles are equal up to case.
* `Workbook.Selects` - the sheet at a place is the only one with a title, up to case.
* `Workbook.Replaced` - one sheet is exchanged, and all others are as they were.
* `Workbook.Change`, `Workbook.perform`, `Workbook.after` - changes of a workbook, and the workbook
  after a history of them.

## Main results

* `Workbook.sheet?_eq_bind` - the two searches agree, in every workbook.
* `Workbook.addSheet_cases` - a sheet is added or refused.
* `Workbook.TitlesApart.perform`, `Workbook.titlesApart_after` - **every change keeps titles apart.**
* `Workbook.Selects.replaced` - a change of the sheet that is found shows under every spelling.
* `Workbook.titles_unambiguous` - all of this after every history.
-/

namespace ReportCompiler

open Text

/-- Texts that are equal up to case are equal up to case to the same texts. -/
theorem Text.sameFold_congr {s t : String} (h : sameFold s t) (u : String) :
    sameFold u s = sameFold u t := by
  simp only [sameFold, beq_iff_eq] at h ⊢
  rw [h]

/-! ### What a write leaves in a sheet -/

namespace Sheet

variable {s : Sheet} {p : Coordinate} {c : Cell}

/-- The position that an operation writes to, and the cell that it leaves there. -/
def written (s : Sheet) : Operation → Option (Coordinate × Cell)
  | .cell p c => some (p, c)
  | .value p v => some (p, ⟨v, s.formula? p⟩)
  | .formula p text => some (p, .ofFormula text (s.value p))
  | .merge _ => none

theorem name_perform (s : Sheet) (op : Operation) : (s.perform op).name = s.name := by
  cases op with
  | cell p c => rfl
  | value p v => rfl
  | formula p text => rfl
  | merge r =>
    rcases s.merge_cases r with ⟨-, -, hok⟩ | ⟨-, fault, herror⟩
    · rw [perform_merge_ok hok]
    · rw [perform_merge_error herror]

/-- A write sets one cell and nothing else. -/
theorem perform_of_written {op : Operation} (h : s.written op = some (p, c)) :
    s.perform op = s.setCell p c := by
  cases op with
  | cell q d =>
    obtain ⟨rfl, rfl⟩ := Prod.mk.inj (Option.some.inj h)
    rfl
  | value q v =>
    obtain ⟨rfl, rfl⟩ := Prod.mk.inj (Option.some.inj h)
    rw [perform, setValue, formula?]
    cases s.cell? q <;> rfl
  | formula q text =>
    obtain ⟨rfl, rfl⟩ := Prod.mk.inj (Option.some.inj h)
    rfl
  | merge r => cases h

end Sheet

namespace Workbook

variable {wb wb' : Workbook} {title : String} {i : Nat} {s : Sheet}

/-! ### The two searches -/

/-- The sheet that is found is the one at the place that is found. -/
theorem sheet?_eq_bind (wb : Workbook) (title : String) :
    wb.sheet? title = (wb.sheetIndex? title).bind fun i => wb.sheets[i]? := by
  rw [sheet?, sheetIndex?, List.find?_eq_bind_findIdx?_getElem?, List.find?_eq_bind_findIdx?_getElem?]
  cases hexact : wb.sheets.findIdx? fun s => s.name == title with
  | none => rfl
  | some i =>
    -- a place that is found has a sheet, so that the second stage is not asked for
    obtain ⟨hi, -⟩ := List.findIdx?_eq_some_iff_getElem.mp hexact
    rw [Option.some_or, Option.bind_some, List.getElem?_eq_getElem hi, Option.some_or]

theorem sheetIndex?_eq_none_iff :
    wb.sheetIndex? title = none ↔ ∀ t ∈ wb.sheets, sameFold t.name title = false := by
  rw [sheetIndex?, Option.or_eq_none_iff, List.findIdx?_eq_none_iff, List.findIdx?_eq_none_iff]
  refine ⟨fun h => h.2, fun h => ⟨fun t ht => ?_, h⟩⟩
  rw [beq_eq_false_iff_ne]
  rintro rfl
  exact absurd (h t ht) (by rw [sameFold_self]; decide)

/-- The sheet at the place that is found has the title, up to case. -/
theorem exists_of_sheetIndex? (h : wb.sheetIndex? title = some i) :
    ∃ s, wb.sheets[i]? = some s ∧ sameFold s.name title := by
  rcases Option.or_eq_some_iff.mp h with hexact | ⟨-, hfold⟩
  · obtain ⟨hi, hname, -⟩ := List.findIdx?_eq_some_iff_getElem.mp hexact
    refine ⟨wb.sheets[i], List.getElem?_eq_getElem hi, ?_⟩
    rw [eq_of_beq hname, sameFold_self]
  · obtain ⟨hi, hname, -⟩ := List.findIdx?_eq_some_iff_getElem.mp hfold
    exact ⟨wb.sheets[i], List.getElem?_eq_getElem hi, hname⟩

/-- Only the titles count for the place that is found. -/
theorem sheetIndex?_congr (h : wb'.sheetNames = wb.sheetNames) (title : String) :
    wb'.sheetIndex? title = wb.sheetIndex? title := by
  have hmap (sheets : List Sheet) (p : String → Bool) :
      (sheets.findIdx? fun s => p s.name) = (sheets.map Sheet.name).findIdx? p :=
    List.findIdx?_map.symm
  simp only [sheetIndex?, hmap _ fun name => name == title, hmap _ fun name => sameFold name title]
  rw [← sheetNames, h, sheetNames]

/-! ### Titles that are apart -/

/-- No two sheets have titles that are equal up to the case of ASCII letters. -/
def TitlesApart (wb : Workbook) : Prop :=
  wb.sheetNames.Pairwise fun a b => sameFold a b = false

/-- The sheet at a place is the only one that has the title, up to case. -/
structure Selects (wb : Workbook) (title : String) (i : Nat) (s : Sheet) : Prop where
  /-- The sheet is at this place. -/
  sheet : wb.sheets[i]? = some s
  /-- The sheet at this place has the title, and no other sheet has. -/
  only (j : Nat) (t : Sheet) : wb.sheets[j]? = some t → (sameFold t.name title ↔ j = i)

namespace Selects

theorem sameFold_name (h : wb.Selects title i s) : sameFold s.name title :=
  (h.only i s h.sheet).mpr rfl

theorem sheetIndex?_eq (h : wb.Selects title i s) : wb.sheetIndex? title = some i := by
  cases hfound : wb.sheetIndex? title with
  | none =>
    have hnot := sheetIndex?_eq_none_iff.mp hfound s (List.mem_of_getElem? h.sheet)
    rw [h.sameFold_name] at hnot
    cases hnot
  | some j =>
    obtain ⟨t, ht, hfold⟩ := exists_of_sheetIndex? hfound
    rw [(h.only j t ht).mp hfold]

theorem sheet?_eq (h : wb.Selects title i s) : wb.sheet? title = some s := by
  rw [sheet?_eq_bind, h.sheetIndex?_eq, Option.bind_some, h.sheet]

end Selects

theorem TitlesApart.eq_of_sameFold (h : wb.TitlesApart) {j : Nat} {t : Sheet}
    (hs : wb.sheets[i]? = some s) (ht : wb.sheets[j]? = some t) (hfold : sameFold s.name t.name) :
    i = j := by
  have hapart {i j : Nat} {s t : Sheet} (hs : wb.sheets[i]? = some s) (ht : wb.sheets[j]? = some t)
      (hlt : i < j) : sameFold s.name t.name = false := by
    obtain ⟨hi, rfl⟩ := List.getElem?_eq_some_iff.mp hs
    obtain ⟨hj, rfl⟩ := List.getElem?_eq_some_iff.mp ht
    exact List.pairwise_iff_getElem.mp (List.pairwise_map.mp h) i j hi hj hlt
  rcases Nat.lt_trichotomy i j with hlt | heq | hlt
  · rw [hapart hs ht hlt] at hfold
    cases hfold
  · exact heq
  · rw [sameFold_comm, hapart ht hs hlt] at hfold
    cases hfold

/-- **A title has one sheet or none.** -/
theorem TitlesApart.selects (h : wb.TitlesApart) {t : Sheet} (ht : t ∈ wb.sheets)
    (hfold : sameFold t.name title) : ∃ i, wb.Selects title i t := by
  obtain ⟨i, hi⟩ := List.mem_iff_getElem?.mp ht
  refine ⟨i, hi, fun j u hu => ⟨fun hu' => ?_, ?_⟩⟩
  · refine h.eq_of_sameFold hu hi ?_
    rwa [sameFold_congr hfold]
  · rintro rfl
    rwa [Option.some.inj (hu.symm.trans hi)]

/-! ### Changing a sheet -/

/-- The sheet with a title has become `s`, and all else is as it was. -/
structure Replaced (wb wb' : Workbook) (title : String) (i : Nat) (s : Sheet) : Prop where
  /-- Every spelling of the title finds the new sheet. -/
  sheet (spelling : String) : sameFold spelling title → wb'.sheet? spelling = some s
  /-- Every spelling reads its cells. -/
  cell (spelling : String) (p : Coordinate) :
    sameFold spelling title → wb'.cell? (.ofPosition spelling p) = s.cell? p
  /-- Every spelling reads its values. -/
  value (spelling : String) (p : Coordinate) :
    sameFold spelling title → wb'.value (.ofPosition spelling p) = s.value p
  /-- Every spelling reads what its cells are. -/
  kind (spelling : String) (p : Coordinate) :
    sameFold spelling title → wb'.kind (.ofPosition spelling p) = s.kind p
  /-- Any other title finds what it found. -/
  otherTitle (other : String) : sameFold other title = false → wb'.sheet? other = wb.sheet? other
  /-- At any other place there is the sheet that was there. -/
  otherPlace (j : Nat) : j ≠ i → wb'.sheets[j]? = wb.sheets[j]?
  /-- The titles are the same. -/
  titles : wb'.sheetNames = wb.sheetNames
  /-- The same names are defined. -/
  names : wb'.names = wb.names

/-- **A change of the sheet that a title finds shows under every spelling of the title.** -/
theorem Selects.replaced (h : wb.Selects title i s) {f : Sheet → Sheet}
    (hf : ∀ s, (f s).name = s.name) :
    ∃ wb', wb.modifySheet? title f = some wb' ∧ wb.Replaced wb' title i (f s) := by
  refine ⟨{ wb with sheets := wb.sheets.modify i f }, ?_, ?_⟩
  · rw [modifySheet?, h.sheetIndex?_eq, Option.map_some]
  have htitles := sheetNames_modify wb i hf
  generalize hwb' : ({ wb with sheets := wb.sheets.modify i f } : Workbook) = wb' at htitles ⊢
  have hplace (j : Nat) : wb'.sheets[j]? = (wb.sheets[j]?).map fun t => if i = j then f t else t := by
    rw [← hwb']
    exact List.getElem?_modify f i wb.sheets j
  have hsheet (spelling : String) (hspelling : sameFold spelling title) :
      wb'.sheet? spelling = some (f s) := by
    -- the place under the spelling is the one under the title, for the titles are the same
    have hselects : wb.Selects spelling i s := by
      refine ⟨h.sheet, fun j t ht => ?_⟩
      rw [sameFold_congr hspelling, h.only j t ht]
    rw [sheet?_eq_bind, sheetIndex?_congr htitles, hselects.sheetIndex?_eq, Option.bind_some,
      hplace, h.sheet, Option.map_some, if_pos rfl]
  have hother (j : Nat) (hj : j ≠ i) : wb'.sheets[j]? = wb.sheets[j]? := by
    rw [hplace]
    simp only [if_neg hj.symm, Option.map_id']
  refine ⟨hsheet, ?_, ?_, ?_, ?_, hother, htitles, ?_⟩
  · intro spelling p hspelling
    rw [cell?, Address.ofPosition, hsheet spelling hspelling, Option.bind_some]
    rfl
  · intro spelling p hspelling
    simp only [value, Address.ofPosition, hsheet spelling hspelling]
    rfl
  · intro spelling p hspelling
    simp only [kind, Address.ofPosition, hsheet spelling hspelling]
    rfl
  · intro other hother'
    rw [sheet?_eq_bind, sheet?_eq_bind wb, sheetIndex?_congr htitles]
    cases hfound : wb.sheetIndex? other with
    | none => rfl
    | some j =>
      refine hother j ?_
      rintro rfl
      obtain ⟨t, ht, hfold⟩ := exists_of_sheetIndex? hfound
      rw [Option.some.inj (ht.symm.trans h.sheet), sameFold_comm,
        sameFold_congr h.sameFold_name, hother'] at hfold
      cases hfold
  · rw [← hwb']

/-! ### Histories -/

/-- A sheet is refused if some sheet has its title up to case, and comes behind the others if not.
-/
theorem addSheet_cases (wb : Workbook) (s : Sheet) :
    ((∃ t ∈ wb.sheets, sameFold t.name s.name) ∧ wb.addSheet s = .error ⟨s.name⟩) ∨
      (∀ t ∈ wb.sheets, sameFold t.name s.name = false) ∧
        wb.addSheet s = .ok { wb with sheets := wb.sheets ++ [s] } := by
  unfold addSheet
  cases hfound : wb.sheet? s.name with
  | some t => exact .inl ⟨⟨t, of_sheet?_eq_some hfound⟩, rfl⟩
  | none =>
    refine .inr ⟨?_, rfl⟩
    intro t ht
    rw [sheet?, Option.or_eq_none_iff, List.find?_eq_none, List.find?_eq_none] at hfound
    exact Bool.eq_false_iff.mpr (hfound.2 t ht)

theorem addSheet_eq_error_iff {fault : DuplicateSheet} :
    wb.addSheet s = .error fault ↔
      fault = ⟨s.name⟩ ∧ ∃ t ∈ wb.sheets, sameFold t.name s.name := by
  rcases wb.addSheet_cases s with ⟨hfold, herror⟩ | ⟨hnew, hok⟩
  · rw [herror, Except.error.injEq, and_iff_left hfold, eq_comm]
  · rw [hok]
    refine iff_of_false nofun ?_
    rintro ⟨-, t, ht, hfold⟩
    rw [hnew t ht] at hfold
    cases hfold

theorem eq_of_addSheet_eq_ok (h : wb.addSheet s = .ok wb') :
    wb' = { wb with sheets := wb.sheets ++ [s] } := by
  rcases wb.addSheet_cases s with ⟨-, herror⟩ | ⟨-, hok⟩
  · rw [herror] at h
    cases h
  · exact Except.ok.inj (h.symm.trans hok)

/-- A change of a workbook. -/
inductive Change
  /-- A sheet is added, or refused. -/
  | sheet (s : Sheet)
  /-- A sheet without cells is added, or refused. -/
  | emptySheet (title : String)
  /-- The sheet that a title finds is changed, if there is one. -/
  | write (title : String) (op : Sheet.Operation)

/-- The workbook with one more sheet, or as it is if the sheet is refused. -/
def add (wb : Workbook) (s : Sheet) : Workbook :=
  match wb.addSheet s with
  | .ok wb' => wb'
  | .error _ => wb

/-- The workbook after a change. -/
def perform (wb : Workbook) : Change → Workbook
  | .sheet s => wb.add s
  | .emptySheet title => wb.add (.new title)
  | .write title op => (wb.modifySheet? title (Sheet.perform · op)).getD wb

/-- A new workbook after a history of changes. -/
def after (history : List Change) : Workbook :=
  history.foldl perform {}

theorem add_of_error {fault : DuplicateSheet} (h : wb.addSheet s = .error fault) : wb.add s = wb := by
  rw [add, h]

namespace TitlesApart

theorem add (h : wb.TitlesApart) (s : Sheet) : (wb.add s).TitlesApart := by
  rcases wb.addSheet_cases s with ⟨-, herror⟩ | ⟨hnew, hok⟩
  · rwa [add_of_error herror]
  · rw [Workbook.add, hok]
    rw [TitlesApart, sheetNames, List.map_append, List.pairwise_append]
    refine ⟨h, List.pairwise_singleton _ _, ?_⟩
    intro a ha b hb
    obtain ⟨t, ht, rfl⟩ := List.mem_map.mp ha
    rw [List.mem_singleton.mp hb]
    exact hnew t ht

/-- **Every change keeps titles apart.** -/
theorem perform (h : wb.TitlesApart) (change : Change) : (wb.perform change).TitlesApart := by
  cases change with
  | sheet s => exact h.add s
  | emptySheet title => exact h.add (.new title)
  | write title op =>
    rw [Workbook.perform, modifySheet?]
    cases wb.sheetIndex? title with
    | none => exact h
    | some i =>
      rw [Option.map_some, Option.getD_some, TitlesApart,
        sheetNames_modify wb i fun s => s.name_perform op]
      exact h

end TitlesApart

theorem titlesApart_after (history : List Change) : (after history).TitlesApart := by
  induction history using List.reverseRecOn with
  | nil => exact List.Pairwise.nil
  | append_singleton history change ih =>
    rw [after, List.foldl_append, List.foldl_cons, List.foldl_nil]
    exact ih.perform change

/-- **After every history of changes, accepted or refused, titles are unambiguous.**  No two of them
are equal up to case.  A sheet is refused exactly if some sheet has its title up to case, and then
nothing changes; otherwise it comes behind the others.  Under a title both searches find nothing if
no sheet has it up to case, and the only sheet that has it otherwise.  Whatever is then done to this
sheet is read under every spelling of its title, and every other sheet is as it was. -/
theorem titles_unambiguous (history : List Change) :
    let wb := after history
    wb.sheetNames.Pairwise (fun a b => sameFold a b = false) ∧
      (∀ s, (∃ fault, wb.addSheet s = .error fault) ↔ ∃ t ∈ wb.sheets, sameFold t.name s.name) ∧
      (∀ s fault, wb.addSheet s = .error fault → fault = ⟨s.name⟩ ∧ wb.add s = wb) ∧
      (∀ s wb', wb.addSheet s = .ok wb' → wb' = { wb with sheets := wb.sheets ++ [s] }) ∧
      (∀ title,
        ((∀ t ∈ wb.sheets, sameFold t.name title = false) ∧
          wb.sheet? title = none ∧ wb.sheetIndex? title = none ∧
            ∀ f, wb.modifySheet? title f = none) ∨
        ∃ i s, wb.Selects title i s ∧ wb.sheet? title = some s ∧ wb.sheetIndex? title = some i) ∧
      ∀ title i s op, wb.Selects title i s →
        ∃ wb', wb.modifySheet? title (Sheet.perform · op) = some wb' ∧
          wb.Replaced wb' title i (s.perform op) ∧
          ∀ p c, s.written op = some (p, c) → ∀ spelling, sameFold spelling title →
            wb'.cell? (.ofPosition spelling p) = some c ∧
            wb'.value (.ofPosition spelling p) = c.value ∧
            (wb'.kind (.ofPosition spelling p) = if s.isHidden p then .merged
              else if c.formula.isSome then .formula else .literal) ∧
            ∀ q, q ≠ p → wb'.cell? (.ofPosition spelling q) = s.cell? q := by
  intro wb
  have hapart : wb.TitlesApart := titlesApart_after history
  refine ⟨hapart, ?_, ?_, ?_, ?_, ?_⟩
  · intro s
    simp only [addSheet_eq_error_iff, exists_eq_left]
  · intro s fault herror
    exact ⟨(addSheet_eq_error_iff.mp herror).1, add_of_error herror⟩
  · intro s wb' hok
    exact eq_of_addSheet_eq_ok hok
  · intro title
    by_cases hfold : ∃ t ∈ wb.sheets, sameFold t.name title
    · obtain ⟨t, ht, hfold⟩ := hfold
      obtain ⟨i, hselects⟩ := hapart.selects ht hfold
      exact .inr ⟨i, t, hselects, hselects.sheet?_eq, hselects.sheetIndex?_eq⟩
    · simp only [not_exists, not_and, Bool.not_eq_true] at hfold
      have hnone := sheetIndex?_eq_none_iff.mpr hfold
      refine .inl ⟨hfold, ?_, hnone, fun f => ?_⟩
      · rw [sheet?_eq_bind, hnone, Option.bind_none]
      · rw [modifySheet?, hnone, Option.map_none]
  · intro title i s op hselects
    obtain ⟨wb', hmodify, hreplaced⟩ := hselects.replaced (Sheet.name_perform · op)
    refine ⟨wb', hmodify, hreplaced, ?_⟩
    intro p c hwritten spelling hspelling
    have hset := Sheet.perform_of_written hwritten
    have hcell : (s.perform op).cell? p = some c := by
      rw [hset, Sheet.cell?_setCell, if_pos rfl]
    refine ⟨?_, ?_, ?_, ?_⟩
    · rw [hreplaced.cell spelling p hspelling, hcell]
    · rw [hreplaced.value spelling p hspelling, Sheet.value, hcell]
    · rw [hreplaced.kind spelling p hspelling, Sheet.kind, Sheet.formula?, hcell, hset]
      rfl
    · intro q hq
      rw [hreplaced.cell spelling q hspelling, hset, Sheet.cell?_setCell, if_neg hq]

/-- A title that is there in other letters is refused; a value that is written under a third spelling
is read under a fourth, and the other sheet is as it was. -/
theorem titles_unambiguous_fourSpellings :
    let wb := after [.emptySheet "Report", .emptySheet "REPORT", .sheet (.new "data")]
    wb.sheetNames = ["Report", "data"] ∧
      ∃ wb', wb.modifySheet? "rEPORT" (Sheet.perform · (.value ⟨0, 1⟩ (.boolean true))) = some wb' ∧
        wb'.value (.ofPosition "reporT" ⟨0, 1⟩) = .boolean true ∧
        wb'.sheet? "DATA" = wb.sheet? "DATA" := by
  intro wb
  have hfacts : wb.sheetNames = ["Report", "data"] ∧ (wb.sheetIndex? "rEPORT").isSome ∧
      sameFold "reporT" "rEPORT" ∧ sameFold "DATA" "rEPORT" = false := by decide
  obtain ⟨hnames, hsome, hspelling, hother⟩ := hfacts
  obtain ⟨-, -, -, -, hfind, hwrite⟩ := titles_unambiguous
    [.emptySheet "Report", .emptySheet "REPORT", .sheet (.new "data")]
  rcases hfind "rEPORT" with ⟨-, -, hnone, -⟩ | ⟨i, s, hselects, -, -⟩
  · rw [show wb.sheetIndex? "rEPORT" = none from hnone] at hsome
    cases hsome
  · obtain ⟨wb', hmodify, hreplaced, hread⟩ :=
      hwrite "rEPORT" i s (.value ⟨0, 1⟩ (.boolean true)) hselects
    exact ⟨hnames, wb', hmodify, (hread _ _ rfl "reporT" hspelling).2.1,
      hreplaced.otherTitle "DATA" hother⟩

end Workbook

end ReportCompiler
