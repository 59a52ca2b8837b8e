import ReportCompiler.Layout.Basic

/-!
# Layouts that pass the check

The check of a layout goes through its parts one after the other and stops at the first fault.  What
is left when it has found none is said here without the order of the parts.

## Main definitions

* `ColumnsInOrder` - two texts are columns, in order.
* `EventTable.Usable`, `Entry.Usable`, `Layout.Usable` - what the parts of a layout and the whole
  satisfy when they pass.

## Main results

* `EventTable.check_eq_ok_iff`, `Entry.check_eq_ok_iff` - which parts pass.
* `Layout.check_eq_ok_iff` - **a layout passes the check exactly if it is usable.**
-/

namespace ReportCompiler

/-! ### Checks one after the other -/

section

variable {ε α β : Type}

theorem bind_eq_ok_iff {x : Except ε α} {f : α → Except ε β} {b : β} :
    (x >>= f) = .ok b ↔ ∃ a, x = .ok a ∧ f a = .ok b := by
  cases x with
  | error why => exact iff_of_false (by rintro ⟨⟩) (by rintro ⟨_, ⟨⟩, _⟩)
  | ok a =>
    constructor
    · intro h
      exact ⟨a, rfl, h⟩
    · rintro ⟨_, ⟨⟩, h⟩
      exact h

theorem seq_eq_ok_iff {x y : Except ε Unit} :
    (do x; y) = .ok () ↔ x = .ok () ∧ y = .ok () := by
  rw [bind_eq_ok_iff]
  constructor
  · rintro ⟨⟨⟩, h⟩
    exact h
  · intro h
    exact ⟨(), h⟩

theorem forM_eq_ok_iff {f : α → Except ε Unit} {xs : List α} :
    xs.forM f = .ok () ↔ ∀ x ∈ xs, f x = .ok () := by
  induction xs with
  | nil => exact iff_of_true rfl (fun _ hx => absurd hx List.not_mem_nil)
  | cons x rest ih =>
    rw [List.forall_mem_cons, ← ih]
    exact seq_eq_ok_iff

/-- A fault that is thrown under a condition, with the checks behind it. -/
theorem refuse_eq_ok_iff {c : Prop} [Decidable c] {why : ε} {next : Unit → Except ε Unit} :
    (if c then (throw why : Except ε Unit) >>= next else next ()) = .ok () ↔
      ¬ c ∧ next () = .ok () := by
  by_cases h : c
  · rw [if_pos h]
    exact iff_of_false (by rintro ⟨⟩) (fun hc => hc.1 h)
  · rw [if_neg h]
    exact (and_iff_right h).symm

/-- The same as the last check. -/
theorem refuse_last_eq_ok_iff {c : Prop} [Decidable c] {why : ε} :
    (if c then throw why else pure () : Except ε Unit) = .ok () ↔ ¬ c := by
  by_cases h : c
  · rw [if_pos h]
    exact iff_of_false (by rintro ⟨⟩) (fun hc => hc h)
  · rw [if_neg h]
    exact iff_of_true rfl h

end

/-! ### The parts of a layout -/

theorem checkCoordinate_eq_ok_iff {text : String} :
    checkCoordinate text = .ok () ↔ (coordinate? text).isSome := by
  unfold checkCoordinate
  by_cases h : (coordinate? text).isSome
  · rw [if_pos h]
    exact iff_of_true rfl h
  · rw [if_neg h]
    exact iff_of_false (by rintro ⟨⟩) h

/-- The two texts are columns, and the first one does not lie right of the second. -/
def ColumnsInOrder (first last : String) : Prop :=
  ∃ a b, column? first.toList = some a ∧ column? last.toList = some b ∧ a ≤ b

theorem checkColumns_eq_ok_iff {first last : String} :
    checkColumns first last = .ok () ↔ ColumnsInOrder first last := by
  unfold checkColumns ColumnsInOrder
  cases column? first.toList with
  | none => exact iff_of_false (by rintro ⟨⟩) (by rintro ⟨_, _, ⟨⟩, _⟩)
  | some a =>
    cases column? last.toList with
    | none => exact iff_of_false (by rintro ⟨⟩) (by rintro ⟨_, _, _, ⟨⟩, _⟩)
    | some b =>
      dsimp only
      by_cases hle : a ≤ b
      · rw [if_pos hle]
        exact iff_of_true rfl ⟨a, b, rfl, rfl, hle⟩
      · rw [if_neg hle]
        refine iff_of_false (by rintro ⟨⟩) ?_
        rintro ⟨_, _, ⟨⟩, ⟨⟩, hab⟩
        exact hle hab

/-- What an event table satisfies that passes the check. -/
structure EventTable.Usable (t : EventTable) : Prop where
  /-- The header row is counted from one. -/
  headerRow_pos : 0 < t.headerRow
  /-- The header row lies above the table. -/
  headerRow_lt : t.headerRow < t.firstRow
  /-- The rows are in order. -/
  firstRow_le : t.firstRow ≤ t.lastRow
  /-- The columns are in order. -/
  columns : ColumnsInOrder t.firstColumn t.lastColumn

theorem EventTable.check_eq_ok_iff {t : EventTable} : t.check = .ok () ↔ t.Usable := by
  unfold EventTable.check
  simp only [Bool.or_eq_true, decide_eq_true_eq, beq_iff_eq]
  by_cases hrows : (t.lastRow < t.firstRow ∨ t.firstRow ≤ t.headerRow) ∨ t.headerRow = 0
  · rw [if_pos hrows]
    refine iff_of_false (by rintro ⟨⟩) ?_
    rintro ⟨h₁, h₂, h₃, -⟩
    omega
  · rw [if_neg hrows, checkColumns_eq_ok_iff]
    constructor
    · intro hcolumns
      exact ⟨by omega, by omega, by omega, hcolumns⟩
    · intro h
      exact h.columns

/-- What an entry satisfies that passes the check. -/
def Entry.Usable : Entry → Prop
  | .single path label value => ∀ text ∈ path ++ [label, value], (coordinate? text).isSome
  | .table path firstColumn lastColumn headerRow firstRow rows =>
    (∀ text ∈ path, (coordinate? text).isSome) ∧ ColumnsInOrder firstColumn lastColumn ∧
      (0 < headerRow ∧ 0 < firstRow) ∧ 0 < rows

theorem Entry.check_eq_ok_iff {e : Entry} : e.check = .ok () ↔ e.Usable := by
  cases e with
  | single path label value =>
    simp only [Entry.check, Entry.Usable, forM_eq_ok_iff, checkCoordinate_eq_ok_iff]
  | table path firstColumn lastColumn headerRow firstRow rows =>
    have hrows : ¬ (headerRow = 0 ∨ firstRow = 0) ↔ 0 < headerRow ∧ 0 < firstRow := by omega
    simp only [Entry.check, Entry.Usable, seq_eq_ok_iff, forM_eq_ok_iff, checkCoordinate_eq_ok_iff,
      checkColumns_eq_ok_iff, refuse_eq_ok_iff, refuse_last_eq_ok_iff, Bool.or_eq_true, beq_iff_eq,
      hrows, Nat.pos_iff_ne_zero]

/-! ### Layouts -/

/-- What a layout satisfies that passes the check. -/
structure Layout.Usable (l : Layout) : Prop where
  /-- The accessor is an identifier. -/
  identifier : isIdentifier l.accessor
  /-- Programs need no such name. -/
  free : isReserved l.accessor = false
  /-- The sheets have names. -/
  sheets : ∀ name ∈ [l.defaultSheet, l.labelSheet, l.dataSheet], (Text.trim name).isEmpty = false
  /-- Constants and accessors have coordinates. -/
  coordinates : ∀ text ∈ l.constants ++ l.accessors.map Prod.fst, (coordinate? text).isSome
  /-- The event table is usable. -/
  eventTable : ∀ t ∈ l.eventTable, t.Usable
  /-- The entries are usable. -/
  entries : ∀ e ∈ l.entries, e.Usable

/-- **A layout passes the check exactly if it is usable.** -/
theorem Layout.check_eq_ok_iff {l : Layout} : l.check = .ok () ↔ l.Usable := by
  have hparts : l.check = .ok () ↔ isIdentifier l.accessor ∧ isReserved l.accessor = false ∧
      (∀ name ∈ [l.defaultSheet, l.labelSheet, l.dataSheet], (Text.trim name).isEmpty = false) ∧
      (∀ text ∈ l.constants ++ l.accessors.map Prod.fst, (coordinate? text).isSome) ∧
      (∀ t ∈ l.eventTable, t.Usable) ∧ ∀ e ∈ l.entries, e.Usable := by
    simp only [Layout.check, refuse_eq_ok_iff, seq_eq_ok_iff, forM_eq_ok_iff,
      checkCoordinate_eq_ok_iff, Bool.not_eq_true, Bool.not_eq_eq_eq_not, Bool.not_true,
      Bool.not_eq_false, List.any_eq_false]
    cases l.eventTable with
    | none =>
      simp only [forM_eq_ok_iff, Entry.check_eq_ok_iff, Option.not_mem_none, false_implies,
        implies_true, true_and]
    | some t =>
      simp only [seq_eq_ok_iff, forM_eq_ok_iff, EventTable.check_eq_ok_iff, Entry.check_eq_ok_iff,
        Option.mem_some, forall_eq']
  rw [hparts]
  constructor
  · rintro ⟨h₁, h₂, h₃, h₄, h₅, h₆⟩
    exact ⟨h₁, h₂, h₃, h₄, h₅, h₆⟩
  · intro h
    exact ⟨h.identifier, h.free, h.sheets, h.coordinates, h.eventTable, h.entries⟩

end ReportCompiler
