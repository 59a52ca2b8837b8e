import ReportCompiler.Cell.Address
import ReportCompiler.Layout.Basic
import ReportCompiler.Proofs.Cell.NormalForm

/-!
# The variables of cells

The variable of a cell is made of the title of its sheet and of its coordinate, with an underscore
between them.  The title may be any text, and may itself end with an underscore and a coordinate.
All the same the variable can be taken apart again: a coordinate has no underscore, so that the last
one is the one in the middle.

## Main results

* `Address.isWordChar_variableName` - the variable of a cell is a word.
* `Coordinate.chars_injective` - different positions have different coordinates.
* `Address.variableName_eq_iff` - **cells with the same variable differ at most in titles that are
  made the same.**
* `variables_unambiguous` - variables are identifiers that no program needs otherwise, and clash only
  if titles do.
-/

namespace ReportCompiler

open Text (isWordChar)

/-! ### Variables as words -/

theorem isWordChar_columnLetters (col : Nat) : ∀ c ∈ columnLetters col, isWordChar c := by
  intro c hc
  simp [isWordChar, Char.isAlphanum, isAlpha_columnLetters col c hc]

namespace Address

theorem isWordChar_sanitizedTitle (title : List Char) :
    ∀ c ∈ sanitizedTitle title, isWordChar c := by
  have hmap : ∀ c ∈ title.map fun c => if isWordChar c then c else '_', isWordChar c := by
    intro d hd
    obtain ⟨c, -, rfl⟩ := List.mem_map.mp hd
    split
    case isTrue hword => exact hword
    case isFalse => rfl
  unfold sanitizedTitle
  split
  case h_1 c rest heq =>
    rw [heq] at hmap
    split
    case isTrue => exact List.forall_mem_cons.mpr ⟨rfl, hmap⟩
    case isFalse => exact hmap
  case h_2 => simp

/-- **The variable of a cell is a word**, whatever the title of its sheet is. -/
theorem isWordChar_variableName (cell : Address) :
    ∀ c ∈ cell.variableName.toList, isWordChar c := by
  have hdigits : ∀ c ∈ Nat.toDigits 10 (cell.position.row + 1), isWordChar c := by
    intro c hc
    have hdigit := Decimal.isDigit_toDigits _ c hc
    simp [isWordChar, Char.isAlphanum, hdigit]
  rw [variableName, String.toList_ofList, Coordinate.chars, List.forall_mem_append,
    List.forall_mem_cons, List.forall_mem_append]
  exact ⟨isWordChar_sanitizedTitle _, rfl, isWordChar_columnLetters _, hdigits⟩

theorem not_isDigit_of_mem_head?_sanitizedTitle {title : List Char} :
    ∀ c ∈ (sanitizedTitle title).head?, c.isDigit = false := by
  unfold sanitizedTitle
  split
  case h_1 c rest heq =>
    split
    case isTrue => simp
    case isFalse hdigit => simpa using hdigit
  case h_2 => simp

theorem head?_variableName (cell : Address) :
    cell.variableName.toList.head?.all Char.isDigit = false := by
  rw [variableName, String.toList_ofList]
  cases htitle : sanitizedTitle cell.sheet.toList with
  | nil => rfl
  | cons c rest => exact not_isDigit_of_mem_head?_sanitizedTitle c (by rw [htitle]; rfl)

/-- A variable ends with the last digit of a row. -/
theorem getLast?_variableName (cell : Address) :
    cell.variableName.toList.getLast?.any Char.isDigit := by
  obtain ⟨digits, d, hdigits⟩ := (List.eq_nil_or_concat _).resolve_left
    (Nat.toDigits_ne_nil (b := 10) (n := cell.position.row + 1))
  have hmem : d ∈ Nat.toDigits 10 (cell.position.row + 1) := by simp [hdigits]
  have hd := Decimal.isDigit_toDigits _ d hmem
  rw [variableName, String.toList_ofList, Coordinate.chars, hdigits]
  simp [List.getLast?_append, List.getLast?_cons, hd]

/-- A word that does not begin with a digit is an identifier. -/
theorem isIdentifier_variableName (cell : Address) : isIdentifier cell.variableName := by
  have hword := cell.isWordChar_variableName
  have hhead := cell.head?_variableName
  have hlast := cell.getLast?_variableName
  unfold isIdentifier
  cases hchars : cell.variableName.toList with
  | nil =>
    rw [hchars] at hlast
    cases hlast
  | cons c rest =>
    rw [hchars] at hword hhead
    obtain ⟨hc, hrest⟩ := List.forall_mem_cons.mp hword
    have hdigit : c.isDigit = false := hhead
    simp only [isWordChar, Char.isAlphanum, hdigit, Bool.or_false] at hc
    exact (Bool.and_eq_true _ _).mpr ⟨hc, List.all_eq_true.mpr hrest⟩

/-- No name that a program needs ends with a digit. -/
theorem isReserved_variableName (cell : Address) : isReserved cell.variableName = false := by
  have hall : ∀ name ∈ keywords ++ programNames, name.toList.getLast?.any Char.isDigit = false := by
    decide
  rw [Bool.eq_false_iff]
  intro hreserved
  rw [isReserved, ← List.contains_append, List.contains_iff_mem] at hreserved
  have hlast := cell.getLast?_variableName
  rw [hall _ hreserved] at hlast
  cases hlast

end Address

/-! ### Variables taken apart -/

/-- Different positions have different coordinates. -/
theorem Coordinate.chars_injective : Function.Injective Coordinate.chars := by
  intro p q h
  obtain ⟨hletters, hrow⟩ :=
    split_append (isAlpha_columnLetters p.col) (Decimal.isDigit_toDigits (p.row + 1))
  obtain ⟨hletters', hrow'⟩ :=
    split_append (isAlpha_columnLetters q.col) (Decimal.isDigit_toDigits (q.row + 1))
  change columnLetters p.col ++ _ = columnLetters q.col ++ _ at h
  rw [h, hletters'] at hletters
  rw [h, hrow'] at hrow
  have hvalue := congrArg Decimal.ofDigits hrow
  rw [Decimal.ofDigits_toDigits, Decimal.ofDigits_toDigits] at hvalue
  have hcol := columnLetters_injective hletters
  cases p
  cases q
  simp_all

theorem underscore_notMem_chars (p : Coordinate) : '_' ∉ p.chars := by
  intro hmem
  rcases List.mem_append.mp hmem with hletter | hdigit
  · cases isAlpha_columnLetters p.col _ hletter
  · cases Decimal.isDigit_toDigits _ _ hdigit

/-- What stands before and behind the last mark of a text is determined by the text. -/
theorem append_inj_of_notMem {mark : Char} {front front' back back' : List Char}
    (hback : mark ∉ back) (hback' : mark ∉ back')
    (h : front ++ mark :: back = front' ++ mark :: back') : front = front' ∧ back = back' := by
  rcases List.append_eq_append_iff.mp h with ⟨mid, hfront, hmid⟩ | ⟨mid, hfront, hmid⟩
  · cases mid with
    | nil => simp_all
    | cons c mid =>
      rw [(List.cons.inj hmid).2] at hback
      simp at hback
  · cases mid with
    | nil => simp_all
    | cons c mid =>
      rw [(List.cons.inj hmid).2] at hback'
      simp at hback'

namespace Address

/-- **Cells have the same variable exactly if they have the same position, on sheets with titles that
are made the same.** -/
theorem variableName_eq_iff {c d : Address} : c.variableName = d.variableName ↔
    c.row = d.row ∧ c.col = d.col ∧
      sanitizedTitle c.sheet.toList = sanitizedTitle d.sheet.toList := by
  rw [variableName, variableName, String.ofList_inj]
  constructor
  · intro h
    obtain ⟨htitle, hchars⟩ := append_inj_of_notMem (underscore_notMem_chars _)
      (underscore_notMem_chars _) h
    have hposition := Coordinate.chars_injective hchars
    exact ⟨congrArg Coordinate.row hposition, congrArg Coordinate.col hposition, htitle⟩
  · rintro ⟨hrow, hcol, htitle⟩
    rw [htitle, position, position, hrow, hcol]

end Address

/-- **Variables are unambiguous.**  They are identifiers, neither keywords nor names that programs
need, and two cells have the same only if the titles of their sheets are made the same. -/
theorem variables_unambiguous (c d : Address) :
    isIdentifier c.variableName ∧ isReserved c.variableName = false ∧
      (c.variableName = d.variableName ↔
        c.row = d.row ∧ c.col = d.col ∧
          Address.sanitizedTitle c.sheet.toList = Address.sanitizedTitle d.sheet.toList) ∧
      (c ≠ d → c.variableName = d.variableName →
        c.sheet ≠ d.sheet ∧
          Address.sanitizedTitle c.sheet.toList = Address.sanitizedTitle d.sheet.toList) := by
  refine ⟨c.isIdentifier_variableName, c.isReserved_variableName, Address.variableName_eq_iff, ?_⟩
  intro hne hname
  obtain ⟨hrow, hcol, htitle⟩ := Address.variableName_eq_iff.mp hname
  refine ⟨fun hsheet => hne ?_, htitle⟩
  cases c
  cases d
  simp_all

/-- Two titles that differ in a character that no variable holds. -/
theorem variables_unambiguous_similarTitles :
    (⟨"a b", 0, 1⟩ : Address) ≠ ⟨"a-b", 0, 1⟩ ∧
      Address.variableName ⟨"a b", 0, 1⟩ = Address.variableName ⟨"a-b", 0, 1⟩ ∧
        "a b" ≠ "a-b" := by
  have hne : (⟨"a b", 0, 1⟩ : Address) ≠ ⟨"a-b", 0, 1⟩ := by decide
  obtain ⟨-, -, hiff, hclash⟩ := variables_unambiguous ⟨"a b", 0, 1⟩ ⟨"a-b", 0, 1⟩
  have hname := hiff.mpr ⟨rfl, rfl, by decide⟩
  exact ⟨hne, hname, (hclash hne hname).1⟩

end ReportCompiler
