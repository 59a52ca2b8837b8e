import Mathlib.Data.List.Induction
import Mathlib.Data.List.Pairwise
import Mathlib.Data.Set.Lattice
import Mathlib.Order.CompletePartialOrder
import Mathlib.Order.Interval.Set.Defs
import ReportCompiler.Workbook.Sheet

/-!
# Merged regions do not overlap

A sheet accepts a merged region only if its corners are the right way round and four comparisons
find it apart from every region before it.  The comparisons come to what they should: two regions
that are the right way round pass them exactly if they have no position in common.  So whatever is
done to a sheet, a position lies in at most one region, and the cell at the top left of a region is
never covered by another one.

## Main definitions

* `Region.Upright` - the corners are the right way round.
* `Region.cells` - the positions of a region.
* `Sheet.Operation`, `Sheet.perform`, `Sheet.after` - changes of a sheet, and the sheet after a
  history of them.
* `Sheet.Tidy` - every region is upright, and no two of them have a position in common.

## Main results

* `Region.overlaps_iff` - upright regions overlap exactly if they share a position.
* `Sheet.merge_cases` - a region is merged or refused.
* `Sheet.Tidy.merge_error_iff` - which regions a tidy sheet refuses.
* `Sheet.Tidy.perform`, `Sheet.tidy_after` - **every operation keeps a sheet tidy**, so that a sheet
  is tidy after every history.
* `Sheet.Tidy.isHidden_iff` - a position is covered exactly if it is not the first of its region.
* `Sheet.regions_disjoint` - all of this after every history.
-/

namespace ReportCompiler

/-! ### Positions of regions -/

namespace Region

variable {r s : Region} {p : Coordinate}

/-- The bottom right corner lies neither above nor left of the top left one. -/
def Upright (r : Region) : Prop :=
  r.first.row ≤ r.last.row ∧ r.first.col ≤ r.last.col

/-- The positions of the region. -/
def cells (r : Region) : Set Coordinate :=
  {p | p.row ∈ Set.Icc r.first.row r.last.row ∧ p.col ∈ Set.Icc r.first.col r.last.col}

theorem mem_cells_iff : p ∈ r.cells ↔ (r.first.row ≤ p.row ∧ p.row ≤ r.last.row) ∧
    r.first.col ≤ p.col ∧ p.col ≤ r.last.col :=
  Iff.rfl

theorem contains_iff : r.contains p ↔ p ∈ r.cells := by
  rw [mem_cells_iff, contains]
  simp only [Bool.and_eq_true, decide_eq_true_eq, and_assoc]

instance : Decidable (p ∈ r.cells) :=
  decidable_of_iff _ contains_iff

theorem isInverted_iff : r.isInverted ↔ ¬ r.Upright := by
  rw [isInverted, Upright]
  simp only [Bool.or_eq_true, decide_eq_true_eq]
  omega

/-- An upright region has its top left corner. -/
theorem Upright.first_mem (h : r.Upright) : r.first ∈ r.cells :=
  ⟨⟨Nat.le_refl _, h.1⟩, Nat.le_refl _, h.2⟩

/-- **Upright regions overlap exactly if they share a position.**  The upper left corner of what
they share is made of the larger row and the larger column of their own. -/
theorem overlaps_iff (hr : r.Upright) (hs : s.Upright) :
    r.overlaps s ↔ ¬ Disjoint r.cells s.cells := by
  have hcompare : r.overlaps s ↔ (s.first.row ≤ r.last.row ∧ r.first.row ≤ s.last.row) ∧
      s.first.col ≤ r.last.col ∧ r.first.col ≤ s.last.col := by
    rw [overlaps]
    simp only [Bool.not_eq_true', Bool.or_eq_false_iff, decide_eq_false_iff_not, Nat.not_lt,
      and_assoc]
  rw [hcompare, Set.not_disjoint_iff]
  obtain ⟨hrow, hcol⟩ := hr
  obtain ⟨hrow', hcol'⟩ := hs
  constructor
  · rintro ⟨⟨h₁, h₂⟩, h₃, h₄⟩
    refine ⟨⟨max r.first.row s.first.row, max r.first.col s.first.col⟩, ?_, ?_⟩ <;>
      · rw [mem_cells_iff]
        dsimp only
        omega
  · rintro ⟨p, hp, hp'⟩
    rw [mem_cells_iff] at hp hp'
    omega

end Region

namespace Sheet

/-! ### Histories -/

/-- A change of a sheet. -/
inductive Operation
  /-- A cell is written anew. -/
  | cell (p : Coordinate) (c : Cell)
  /-- A value is written. -/
  | value (p : Coordinate) (v : CellValue)
  /-- A formula is written. -/
  | formula (p : Coordinate) (text : String)
  /-- A region is merged, or refused. -/
  | merge (r : Region)
  deriving DecidableEq, Repr

/-- The operation writes into a cell. -/
def Operation.IsWrite : Operation → Prop
  | .cell _ _ | .value _ _ | .formula _ _ => True
  | .merge _ => False

/-- The sheet after an operation.  A region that is refused leaves it as it is. -/
def perform (s : Sheet) : Operation → Sheet
  | .cell p c => s.setCell p c
  | .value p v => s.setValue p v
  | .formula p text => s.setFormula p text
  | .merge r =>
    match s.merge r with
    | .ok s' => s'
    | .error _ => s

/-- A new sheet after a history of operations. -/
def after (name : String) (history : List Operation) : Sheet :=
  history.foldl perform (new name)

variable {s : Sheet} {r : Region}

/-- Writing into a cell does not touch the regions. -/
theorem merges_perform_of_isWrite {op : Operation} (h : op.IsWrite) :
    (s.perform op).merges = s.merges := by
  cases op with
  | cell p c => rfl
  | value p v => rfl
  | formula p text => rfl
  | merge r => cases h

theorem perform_merge_ok {s' : Sheet} (h : s.merge r = .ok s') : s.perform (.merge r) = s' := by
  simp only [perform, h]

/-- A region that is refused changes nothing. -/
theorem perform_merge_error {fault : MergeFault} (h : s.merge r = .error fault) :
    s.perform (.merge r) = s := by
  simp only [perform, h]

/-- A region is merged if it is upright and overlaps no other, and refused if not. -/
theorem merge_cases (s : Sheet) (r : Region) :
    (r.Upright ∧ (∀ e ∈ s.merges, r.overlaps e = false) ∧
      s.merge r = .ok { s with merges := s.merges ++ [r] }) ∨
    ((¬ r.Upright ∨ ∃ e ∈ s.merges, r.overlaps e) ∧ ∃ fault, s.merge r = .error fault) := by
  unfold merge
  by_cases hinverted : r.isInverted
  · rw [if_pos hinverted]
    exact .inr ⟨.inl (Region.isInverted_iff.mp hinverted), _, rfl⟩
  · rw [if_neg hinverted]
    cases hfind : s.merges.find? r.overlaps with
    | some e =>
      have hoverlap : r.overlaps e := List.find?_some hfind
      exact .inr ⟨.inr ⟨e, List.mem_of_find?_eq_some hfind, hoverlap⟩, _, rfl⟩
    | none =>
      refine .inl ⟨?_, ?_, rfl⟩
      · rwa [Region.isInverted_iff, not_not] at hinverted
      · intro e he
        exact Bool.eq_false_iff.mpr (List.find?_eq_none.mp hfind e he)

/-! ### Tidy sheets -/

/-- Every region is upright, and no two regions have a position in common. -/
structure Tidy (s : Sheet) : Prop where
  /-- No region is inverted. -/
  upright : ∀ r ∈ s.merges, r.Upright
  /-- Regions are apart from each other. -/
  disjoint : s.merges.Pairwise fun r r' => Disjoint r.cells r'.cells

/-- A position is covered by the regions that it lies in without being their first. -/
theorem isHidden_iff_exists {p : Coordinate} :
    s.isHidden p ↔ ∃ r ∈ s.merges, p ∈ r.cells ∧ p ≠ r.first := by
  simp only [isHidden, List.any_eq_true, Bool.and_eq_true, bne_iff_ne, Region.contains_iff]

theorem tidy_new (name : String) : (new name).Tidy :=
  ⟨fun _ hr => absurd hr List.not_mem_nil, List.Pairwise.nil⟩

namespace Tidy

/-- One more upright region that is apart from all others. -/
theorem concat (h : s.Tidy) (hr : r.Upright)
    (hapart : ∀ e ∈ s.merges, Disjoint r.cells e.cells) :
    Tidy { s with merges := s.merges ++ [r] } where
  upright := List.forall_mem_append.mpr ⟨h.upright, List.forall_mem_singleton.mpr hr⟩
  disjoint := by
    refine List.pairwise_append.mpr ⟨h.disjoint, List.pairwise_singleton _ r, ?_⟩
    intro e he r' hr'
    rw [List.mem_singleton.mp hr']
    exact (hapart e he).symm

/-- In a tidy sheet the comparisons find exactly the regions that share a position. -/
theorem overlaps_iff (h : s.Tidy) (hr : r.Upright) {e : Region} (he : e ∈ s.merges) :
    r.overlaps e ↔ ¬ Disjoint r.cells e.cells :=
  Region.overlaps_iff hr (h.upright e he)

/-- **A tidy sheet refuses exactly the regions that are inverted or share a position with another
one.** -/
theorem merge_error_iff (h : s.Tidy) : (∃ fault, s.merge r = .error fault) ↔
    ¬ r.Upright ∨ ∃ e ∈ s.merges, ¬ Disjoint r.cells e.cells := by
  rcases s.merge_cases r with ⟨hr, hapart, hok⟩ | ⟨hrefused, herror⟩
  · -- the region is merged, and has neither of the two faults
    constructor
    · rintro ⟨fault, hfault⟩
      rw [hok] at hfault
      cases hfault
    · rintro (hinverted | ⟨e, he, hshare⟩)
      · exact absurd hr hinverted
      · have hoverlap := (h.overlaps_iff hr he).mpr hshare
        rw [hapart e he] at hoverlap
        cases hoverlap
  · refine iff_of_true herror ?_
    rcases hrefused with hinverted | ⟨e, he, hoverlap⟩
    · exact .inl hinverted
    · -- the comparisons say something about upright regions only
      by_cases hr : r.Upright
      · exact .inr ⟨e, he, (h.overlaps_iff hr he).mp hoverlap⟩
      · exact .inl hr

/-- A position lies in at most one region. -/
theorem eq_of_mem (h : s.Tidy) {p : Coordinate} {r' : Region} (hr : r ∈ s.merges)
    (hr' : r' ∈ s.merges) (hp : p ∈ r.cells) (hp' : p ∈ r'.cells) : r = r' := by
  by_contra hne
  have hsymm : Std.Symm fun r r' : Region => Disjoint r.cells r'.cells := ⟨fun _ _ hd => hd.symm⟩
  exact Set.disjoint_left.mp (h.disjoint.forall hr hr' hne) hp hp'

theorem nodup (h : s.Tidy) : s.merges.Nodup := by
  refine h.disjoint.imp_of_mem ?_
  rintro r _ hr - hdisjoint rfl
  exact Set.disjoint_left.mp hdisjoint (h.upright r hr).first_mem (h.upright r hr).first_mem

/-- **A position is covered exactly if it has a region and is not the first position of it.** -/
theorem isHidden_iff (h : s.Tidy) {p : Coordinate} : s.isHidden p ↔
    ∃ r, (∀ r', r' ∈ s.merges ∧ p ∈ r'.cells ↔ r' = r) ∧ p ≠ r.first := by
  rw [isHidden_iff_exists]
  constructor
  · rintro ⟨r, hr, hp, hne⟩
    refine ⟨r, fun r' => ⟨fun hr' => h.eq_of_mem hr'.1 hr hr'.2 hp, ?_⟩, hne⟩
    rintro rfl
    exact ⟨hr, hp⟩
  · rintro ⟨r, honly, hne⟩
    obtain ⟨hr, hp⟩ := (honly r).mpr rfl
    exact ⟨r, hr, hp, hne⟩

/-- The first position of a region is not covered by another one. -/
theorem isHidden_first (h : s.Tidy) (hr : r ∈ s.merges) : s.isHidden r.first = false := by
  rw [Bool.eq_false_iff]
  intro hhidden
  obtain ⟨r', honly, hne⟩ := h.isHidden_iff.mp hhidden
  exact hne (congrArg Region.first ((honly r).mp ⟨hr, (h.upright r hr).first_mem⟩))

/-- **Every operation keeps a sheet tidy.** -/
theorem perform (h : s.Tidy) (op : Operation) : (s.perform op).Tidy := by
  by_cases hwrite : op.IsWrite
  · have hmerges := merges_perform_of_isWrite (s := s) hwrite
    exact ⟨hmerges ▸ h.upright, hmerges ▸ h.disjoint⟩
  · cases op with
    | cell p c => exact absurd trivial hwrite
    | value p v => exact absurd trivial hwrite
    | formula p text => exact absurd trivial hwrite
    | merge r =>
      rcases s.merge_cases r with ⟨hr, hapart, hok⟩ | ⟨-, fault, herror⟩
      · rw [perform_merge_ok hok]
        refine h.concat hr ?_
        intro e he
        by_contra hshare
        rw [← h.overlaps_iff hr he, hapart e he] at hshare
        cases hshare
      · rw [perform_merge_error herror]
        exact h

end Tidy

/-- A sheet is tidy after every history. -/
theorem tidy_after (name : String) (history : List Operation) : (after name history).Tidy := by
  induction history using List.reverseRecOn with
  | nil => exact tidy_new name
  | append_singleton history op ih =>
    rw [after, List.foldl_append, List.foldl_cons, List.foldl_nil]
    exact ih.perform op

/-- **After every history of operations, accepted or refused, merged regions are upright and have no
position in common.**  A position lies in at most one region.  A region is refused exactly if it is
inverted or shares a position with another one, and then nothing changes; otherwise it comes behind
the others.  A position is covered exactly if it lies in its only region and is not the first one
there.  So no region covers the first position of another, and writing into cells changes nothing
of this. -/
theorem regions_disjoint (name : String) (history : List Operation) :
    let s := after name history
    (∀ r ∈ s.merges, r.first.row ≤ r.last.row ∧ r.first.col ≤ r.last.col) ∧
      s.merges.Nodup ∧ s.merges.Pairwise (fun r r' => Disjoint r.cells r'.cells) ∧
      (∀ p, ∀ r ∈ s.merges, ∀ r' ∈ s.merges, p ∈ r.cells → p ∈ r'.cells → r = r') ∧
      (∀ r, (∃ fault, s.merge r = .error fault) ↔
        (r.last.row < r.first.row ∨ r.last.col < r.first.col) ∨
          ∃ e ∈ s.merges, ∃ p, p ∈ r.cells ∧ p ∈ e.cells) ∧
      (∀ r, (∃ fault, s.merge r = .error fault) → s.perform (.merge r) = s) ∧
      (∀ r s', s.merge r = .ok s' → s' = { s with merges := s.merges ++ [r] }) ∧
      (∀ p, s.isHidden p ↔ ∃ r, (∀ r', r' ∈ s.merges ∧ p ∈ r'.cells ↔ r' = r) ∧ p ≠ r.first) ∧
      (∀ r ∈ s.merges, s.isHidden r.first = false) ∧
      ∀ op : Operation, op.IsWrite → (s.perform op).merges = s.merges ∧
        ∀ p, (s.perform op).isHidden p = s.isHidden p := by
  intro s
  have htidy : s.Tidy := tidy_after name history
  refine ⟨htidy.upright, htidy.nodup, htidy.disjoint, fun p r hr r' hr' => htidy.eq_of_mem hr hr',
    ?_, ?_, ?_, fun p => htidy.isHidden_iff, fun r => htidy.isHidden_first, ?_⟩
  · intro r
    rw [htidy.merge_error_iff]
    simp only [Region.Upright, Set.not_disjoint_iff, not_and_or, Nat.not_le]
  · rintro r ⟨fault, herror⟩
    exact perform_merge_error herror
  · intro r s' hok
    rcases s.merge_cases r with ⟨-, -, hmerged⟩ | ⟨-, fault, herror⟩
    · exact Except.ok.inj (hok.symm.trans hmerged)
    · rw [herror] at hok
      cases hok
  · intro op hwrite
    have hmerges := merges_perform_of_isWrite (s := s) hwrite
    refine ⟨hmerges, ?_⟩
    intro p
    rw [isHidden, hmerges, isHidden]

/-- Between two regions that touch, a value is written and two others are refused: one shares a
corner with the first, and one is upside down. -/
theorem regions_disjoint_refusedPair :
    let s := after "report" [.merge ⟨⟨0, 0⟩, ⟨1, 1⟩⟩, .value ⟨0, 1⟩ (.boolean true),
      .merge ⟨⟨1, 1⟩, ⟨2, 2⟩⟩, .merge ⟨⟨2, 0⟩, ⟨1, 0⟩⟩, .merge ⟨⟨0, 2⟩, ⟨1, 2⟩⟩]
    s.merges = [⟨⟨0, 0⟩, ⟨1, 1⟩⟩, ⟨⟨0, 2⟩, ⟨1, 2⟩⟩] ∧ s.isHidden ⟨0, 1⟩ ∧
      (∃ r, (∀ r', r' ∈ s.merges ∧ ⟨0, 1⟩ ∈ r'.cells ↔ r' = r) ∧ ⟨0, 1⟩ ≠ r.first) ∧
      s.isHidden ⟨0, 2⟩ = false ∧ ∃ fault, s.merge ⟨⟨1, 2⟩, ⟨5, 2⟩⟩ = .error fault := by
  intro s
  have hmerges : s.merges = [⟨⟨0, 0⟩, ⟨1, 1⟩⟩, ⟨⟨0, 2⟩, ⟨1, 2⟩⟩] := by decide
  have hhidden : s.isHidden ⟨0, 1⟩ := by decide
  obtain ⟨-, -, -, -, hrefused, -, -, hcovered, hfirst, -⟩ := regions_disjoint "report"
    [.merge ⟨⟨0, 0⟩, ⟨1, 1⟩⟩, .value ⟨0, 1⟩ (.boolean true), .merge ⟨⟨1, 1⟩, ⟨2, 2⟩⟩,
      .merge ⟨⟨2, 0⟩, ⟨1, 0⟩⟩, .merge ⟨⟨0, 2⟩, ⟨1, 2⟩⟩]
  refine ⟨hmerges, hhidden, (hcovered _).mp hhidden, hfirst ⟨⟨0, 2⟩, ⟨1, 2⟩⟩ ?_, ?_⟩
  · show _ ∈ s.merges
    rw [hmerges]
    decide
  · refine (hrefused _).mpr (.inr ⟨⟨⟨0, 2⟩, ⟨1, 2⟩⟩, ?_, ⟨1, 2⟩, by decide, by decide⟩)
    show _ ∈ s.merges
    rw [hmerges]
    decide

end Sheet

end ReportCompiler
