import ReportCompiler.Text.Ascii
import ReportCompiler.Text.Blank

/-!
# Texts without control characters

A text without control characters stands on one line, whatever the line breaks are.

## Main definitions

* `ControlFree` - no character of the text is a control.
* `isLineBreak` - a character that ends a line.

## Main results

* `controlFree_append`, `controlFree_cons`, `ControlFree.intercalate` - putting texts together.
* `not_isControl_of_le` - ASCII characters from the space to the tilde are no controls.
-/

namespace ReportCompiler.Text

/-- No character of the text is a control. -/
def ControlFree (cs : List Char) : Prop :=
  ∀ c ∈ cs, isControl c = false

instance (cs : List Char) : Decidable (ControlFree cs) :=
  List.decidableBAll (fun c => isControl c = false) cs

@[simp] theorem controlFree_nil : ControlFree [] := by
  simp [ControlFree]

@[simp] theorem controlFree_cons {c : Char} {cs : List Char} :
    ControlFree (c :: cs) ↔ isControl c = false ∧ ControlFree cs :=
  List.forall_mem_cons

@[simp] theorem controlFree_append {as bs : List Char} :
    ControlFree (as ++ bs) ↔ ControlFree as ∧ ControlFree bs :=
  List.forall_mem_append

theorem ControlFree.flatMap {α : Type} {f : α → List Char} {as : List α}
    (h : ∀ a ∈ as, ControlFree (f a)) : ControlFree (as.flatMap f) := by
  intro c hc
  obtain ⟨a, ha, hmem⟩ := List.mem_flatMap.mp hc
  exact h a ha c hmem

theorem ControlFree.intercalate {sep : String} {parts : List String}
    (hsep : ControlFree sep.toList) (h : ∀ part ∈ parts, ControlFree part.toList) :
    ControlFree (sep.intercalate parts).toList := by
  rw [String.toList_intercalate]
  induction parts with
  | nil => simp
  | cons part rest ih =>
    have hpart := h part List.mem_cons_self
    have hrest := ih fun p hp => h p (List.mem_cons_of_mem part hp)
    cases rest with
    | nil => simpa using hpart
    | cons next more =>
      rw [List.map_cons, List.map_cons, List.intercalate_cons_cons]
      simp only [controlFree_append]
      exact ⟨⟨hpart, hsep⟩, hrest⟩

/-! ### Characters that are no controls -/

/-- The character ends a line. -/
def isLineBreak (c : Char) : Bool :=
  c = '\n' || c = '\r'

theorem isLineBreak_of_isControl {c : Char} (h : isControl c = false) : isLineBreak c = false := by
  rw [Bool.eq_false_iff]
  intro hbreak
  rcases (by simpa [isLineBreak] using hbreak : c = '\n' ∨ c = '\r') with rfl | rfl <;> cases h

theorem not_isControl_of_le {c : Char} (hlow : 0x20 ≤ c.toNat) (hhigh : c.toNat < 0x7f) :
    isControl c = false := by
  simp only [isControl, Bool.or_eq_false_iff, Bool.and_eq_false_iff, decide_eq_false_iff_not]
  omega

theorem not_isControl_of_isAlpha {c : Char} (h : c.isAlpha) : isControl c = false := by
  have hlow := le_toNat_of_isAlpha h
  have hhigh : c.toNat ≤ 122 := by
    rcases (Bool.or_eq_true _ _).mp h with hupper | hlower
    · have hle : c.toNat ≤ 90 := (of_decide_eq_true hupper).2
      omega
    · exact of_decide_eq_true ((Bool.and_eq_true _ _).mp hlower).2
  exact not_isControl_of_le (by omega) (by omega)

theorem not_isControl_of_isDigit {c : Char} (h : c.isDigit) : isControl c = false := by
  have hhigh := toNat_le_of_isDigit h
  have hlow : 48 ≤ c.toNat := of_decide_eq_true ((Bool.and_eq_true _ _).mp h).1
  exact not_isControl_of_le (by omega) (by omega)

theorem not_isControl_of_isWordChar {c : Char} (h : isWordChar c) : isControl c = false := by
  simp only [isWordChar, Char.isAlphanum, Bool.or_eq_true, decide_eq_true_eq] at h
  rcases h with (hletter | hdigit) | rfl
  · exact not_isControl_of_isAlpha hletter
  · exact not_isControl_of_isDigit hdigit
  · rfl

end ReportCompiler.Text
