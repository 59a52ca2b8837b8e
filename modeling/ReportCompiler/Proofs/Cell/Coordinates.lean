import Mathlib
import ReportCompiler.Cell.Coordinate
import ReportCompiler.Text.Ascii

/-!
# Coordinates as they are written

A coordinate is read with blanks around it, with dollar signs, and in any case of its letters.  All
of these forms are seen here to be read as the position that they stand for, and a text that is read
as a coordinate is seen to hold nothing but letters, digits and dollar signs.

## Main results

* `column?_columnLetters` - column letters are read as their column.
* `bareCoordinate?_append` - letters and digits are read one after the other.
* `bareCoordinate?_map_toLower` - the case of the letters does not matter.
* `coordinate?_ofList` - **letters and digits are read as their position**, wherever dollar signs
  stand among them.
* `coordinate?_congr` - so are all texts that differ in blanks around them and in case.
* `chars_of_coordinate?` - what a text that is read as a coordinate holds.
-/

namespace ReportCompiler

namespace Text

/-! ### Blanks at the ends -/

theorem not_isBlank_of_le {c : Char} (hlow : 0x20 < c.toNat) (hhigh : c.toNat < 0x7f) :
    isBlank c = false := by
  simp only [isBlank, blankRanges, inRanges_cons, inRanges_nil, Bool.or_false, Bool.or_eq_false_iff,
    Bool.and_eq_false_iff, decide_eq_false_iff_not]
  omega

theorem toNat_le_of_isAlpha {c : Char} (h : c.isAlpha) : c.toNat ≤ 122 := by
  rcases (Bool.or_eq_true _ _).mp h with hupper | hlower
  · have hle : c.toNat ≤ 90 := (of_decide_eq_true hupper).2
    omega
  · exact of_decide_eq_true ((Bool.and_eq_true _ _).mp hlower).2

theorem le_toNat_of_isDigit {c : Char} (h : c.isDigit) : 48 ≤ c.toNat :=
  of_decide_eq_true ((Bool.and_eq_true _ _).mp h).1

theorem dropWhile_isBlank_eq_self {cs : List Char} (h : ∀ c ∈ cs.head?, isBlank c = false) :
    cs.dropWhile isBlank = cs := by
  cases cs with
  | nil => rfl
  | cons c rest => rw [List.dropWhile_cons, h c rfl, if_neg Bool.false_ne_true]

/-- A text without blanks at its ends has nothing to trim. -/
theorem trimChars_eq_self {cs : List Char} (hfirst : ∀ c ∈ cs.head?, isBlank c = false)
    (hlast : ∀ c ∈ cs.getLast?, isBlank c = false) : trimChars cs = cs := by
  have hreverse : cs.reverse.dropWhile isBlank = cs.reverse := by
    refine dropWhile_isBlank_eq_self ?_
    rwa [List.head?_reverse]
  rw [trimChars, dropWhile_isBlank_eq_self hfirst, trimRight, hreverse, List.reverse_reverse]

theorem trimChars_of_forall {cs : List Char} (h : ∀ c ∈ cs, isBlank c = false) :
    trimChars cs = cs :=
  trimChars_eq_self (fun c hc => h c (List.mem_of_head? hc))
    fun c hc => h c (List.mem_of_getLast? hc)

theorem not_isBlank_head_dropWhile (cs : List Char) :
    ∀ c ∈ (cs.dropWhile isBlank).head?, isBlank c = false := by
  intro c hc
  have hhead := List.head?_dropWhile_not isBlank cs
  rw [hc] at hhead
  exact hhead

theorem not_isBlank_head_trimChars (cs : List Char) :
    ∀ c ∈ (trimChars cs).head?, isBlank c = false := by
  -- what is left in front of the trailing blanks begins as before
  intro c hc
  obtain ⟨tail, htail⟩ : trimChars cs <+: cs.dropWhile isBlank := by
    rw [trimChars, trimRight, ← List.reverse_suffix, List.reverse_reverse]
    exact List.dropWhile_suffix _
  refine not_isBlank_head_dropWhile cs c ?_
  rw [← htail, List.head?_append, hc]
  rfl

theorem not_isBlank_getLast_trimChars (cs : List Char) :
    ∀ c ∈ (trimChars cs).getLast?, isBlank c = false := by
  rw [trimChars, trimRight, List.getLast?_reverse]
  exact not_isBlank_head_dropWhile _

/-- A trimmed text has no blanks at its ends. -/
theorem trimChars_trimChars (cs : List Char) : trimChars (trimChars cs) = trimChars cs :=
  trimChars_eq_self (not_isBlank_head_trimChars cs) (not_isBlank_getLast_trimChars cs)

/-! ### Letters and digits -/

theorem not_isDigit_of_isAlpha {c : Char} (h : c.isAlpha) : c.isDigit = false := by
  rw [Bool.eq_false_iff]
  intro hdigit
  have hlow := le_toNat_of_isAlpha h
  have hhigh := toNat_le_of_isDigit hdigit
  omega

theorem isDigit_toLower (c : Char) : c.toLower.isDigit = c.isDigit := by
  by_cases hupper : c.isUpper
  · have hletter := isAlpha_of_isUpper hupper
    have hsmall : c.toLower.isAlpha := by rwa [Char.isAlpha_toLower_eq_isAlpha]
    rw [not_isDigit_of_isAlpha hsmall, not_isDigit_of_isAlpha hletter]
  · rw [Char.toLower_eq_of_not_isUpper hupper]

theorem toLower_eq_self_of_isDigit {c : Char} (h : c.isDigit) : c.toLower = c := by
  refine Char.toLower_eq_of_not_isUpper fun hupper => ?_
  rw [not_isDigit_of_isAlpha (isAlpha_of_isUpper hupper)] at h
  cases h

/-- Only letters are changed. -/
theorem toLower_eq_iff {c d : Char} (hd : d.isAlpha = false) : c.toLower = d ↔ c = d := by
  by_cases hupper : c.isUpper
  · have hletter := isAlpha_of_isUpper hupper
    have hsmall : c.toLower.isAlpha := by rwa [Char.isAlpha_toLower_eq_isAlpha]
    constructor <;>
      · rintro rfl
        simp_all
  · rw [Char.toLower_eq_of_not_isUpper hupper]

/-- A letter, a digit or a dollar sign: what a coordinate holds. -/
def isCoordinateChar (c : Char) : Bool :=
  c.isAlpha || c.isDigit || c = '$'

theorem not_isBlank_of_isCoordinateChar {c : Char} (h : isCoordinateChar c) :
    isBlank c = false := by
  simp only [isCoordinateChar, Bool.or_eq_true, decide_eq_true_eq] at h
  rcases h with (hletter | hdigit) | rfl
  · have hlow := le_toNat_of_isAlpha hletter
    have hhigh := toNat_le_of_isAlpha hletter
    exact not_isBlank_of_le (by omega) (by omega)
  · have hlow := le_toNat_of_isDigit hdigit
    have hhigh := toNat_le_of_isDigit hdigit
    exact not_isBlank_of_le (by omega) (by omega)
  · rfl

theorem isCoordinateChar_append {letters digits : List Char} (hletters : ∀ c ∈ letters, c.isAlpha)
    (hdigits : ∀ c ∈ digits, c.isDigit) : ∀ c ∈ letters ++ digits, isCoordinateChar c := by
  intro c hc
  rcases List.mem_append.mp hc with hc | hc
  · simp [isCoordinateChar, hletters c hc]
  · simp [isCoordinateChar, hdigits c hc]

/-- There are no dollar signs among letters and digits. -/
theorem filter_dollar_append {letters digits : List Char} (hletters : ∀ c ∈ letters, c.isAlpha)
    (hdigits : ∀ c ∈ digits, c.isDigit) :
    (letters ++ digits).filter (· != '$') = letters ++ digits := by
  refine List.filter_eq_self.mpr fun c hc => bne_iff_ne.mpr ?_
  rintro rfl
  rcases List.mem_append.mp hc with hc | hc
  · cases hletters _ hc
  · cases hdigits _ hc

theorem toNat_lt_of_isCoordinateChar {c : Char} (h : isCoordinateChar c) : c.toNat < 0x80 := by
  simp only [isCoordinateChar, Bool.or_eq_true, decide_eq_true_eq] at h
  rcases h with (hletter | hdigit) | rfl
  · have hhigh := toNat_le_of_isAlpha hletter
    omega
  · have hhigh := toNat_le_of_isDigit hdigit
    omega
  · decide

end Text

namespace Decimal

theorem ofDigits_toDigits (n : Nat) : ofDigits (Nat.toDigits 10 n) = n := by
  have hdigits := Nat.ofDigitChars_ten_toDigits (n := n)
  simp only [Nat.ofDigitChars, Nat.mul_comm 10] at hdigits
  exact hdigits

theorem isDigit_toDigits (n : Nat) : ∀ c ∈ Nat.toDigits 10 n, c.isDigit :=
  fun _ hc => Nat.isDigit_of_mem_toDigits (by decide) (by decide) hc

end Decimal

/-! ### Columns -/

theorem toNat_columnLetter {n : Nat} (h : n < 26) : (columnLetter n).toNat = 65 + n := by
  rw [columnLetter, Char.toNat_ofNat, if_pos (by simp [Nat.isValidChar]; omega)]
  rfl

theorem isUpper_columnLetter {n : Nat} (h : n < 26) : (columnLetter n).isUpper := by
  have hvalue := toNat_columnLetter h
  simp only [Char.isUpper, UInt32.le_iff_toNat_le, Char.toNat_val]
  simp [hvalue]
  omega

theorem letterValue_columnLetter {n : Nat} (h : n < 26) : letterValue (columnLetter n) = n + 1 := by
  have hupper : ¬ (columnLetter n).isLower := Char.not_isLower_of_isUpper (isUpper_columnLetter h)
  rw [letterValue, Char.toUpper_eq_of_not_isLower hupper, toNat_columnLetter h]
  simp

theorem lettersValue_append (cs : List Char) (c : Char) :
    lettersValue (cs ++ [c]) = lettersValue cs * 26 + letterValue c := by
  rw [lettersValue, List.foldl_append]
  rfl

theorem lettersValue_columnLetters (col : Nat) : lettersValue (columnLetters col) = col + 1 := by
  fun_induction columnLetters col with
  | case1 col h =>
    have hvalue := letterValue_columnLetter h
    simpa [lettersValue] using hvalue
  | case2 col h ih =>
    have hvalue := letterValue_columnLetter (Nat.mod_lt col (by decide : 26 > 0))
    rw [lettersValue_append, ih, hvalue]
    omega

theorem isUpper_columnLetters (col : Nat) : ∀ c ∈ columnLetters col, c.isUpper := by
  fun_induction columnLetters col with
  | case1 col h => simpa using isUpper_columnLetter h
  | case2 col h ih =>
    have hlast := isUpper_columnLetter (Nat.mod_lt col (by decide : 26 > 0))
    exact List.forall_mem_append.mpr ⟨ih, by simpa using hlast⟩

theorem isAlpha_columnLetters (col : Nat) : ∀ c ∈ columnLetters col, c.isAlpha :=
  fun c hc => Text.isAlpha_of_isUpper (isUpper_columnLetters col c hc)

theorem columnLetters_ne_nil (col : Nat) : columnLetters col ≠ [] := by
  rw [columnLetters]
  split <;> simp

theorem length_columnLetters {col : Nat} (h : col < maxColumns) :
    (columnLetters col).length ≤ 3 := by
  simp only [maxColumns] at h
  -- three letters reach further than the last column
  rw [columnLetters]
  split
  · simp
  · rw [List.length_append, columnLetters]
    split
    · simp
    · rw [List.length_append, columnLetters, dif_pos (by omega)]
      simp

/-- Column letters are read as their column. -/
theorem column?_columnLetters {col : Nat} (h : col < maxColumns) :
    column? (columnLetters col) = some col := by
  have hempty : (columnLetters col).isEmpty = false :=
    List.isEmpty_eq_false_iff.mpr (columnLetters_ne_nil col)
  have hlength : ¬ 3 < (columnLetters col).length := Nat.not_lt.mpr (length_columnLetters h)
  have halpha : (columnLetters col).all Char.isAlpha :=
    List.all_eq_true.mpr (isAlpha_columnLetters col)
  rw [column?, hempty, halpha, lettersValue_columnLetters]
  simp [hlength, h]

theorem lt_of_column? {cs : List Char} {col : Nat} (h : column? cs = some col) :
    col < maxColumns := by
  unfold column? at h
  simp only [Option.ite_none_left_eq_some, Option.ite_none_right_eq_some] at h
  obtain ⟨-, hlt, heq⟩ := h
  rw [← Option.some.inj heq]
  exact hlt

theorem column?_map {f : Char → Char} (halpha : ∀ c, (f c).isAlpha = c.isAlpha)
    (hupper : ∀ c, (f c).toUpper = c.toUpper) (cs : List Char) :
    column? (cs.map f) = column? cs := by
  have hvalue : lettersValue (cs.map f) = lettersValue cs := by
    simp only [lettersValue, letterValue, List.foldl_map, hupper]
  have hall : (cs.map f).all Char.isAlpha = cs.all Char.isAlpha := by
    rw [List.all_map]
    exact congrArg cs.all (funext halpha)
  rw [column?, column?, hvalue, hall, List.isEmpty_map, List.length_map]

theorem isAlpha_of_map_toUpper {cs : List Char} {col : Nat}
    (h : cs.map Char.toUpper = columnLetters col) : ∀ c ∈ cs, c.isAlpha := by
  intro c hc
  rw [← Char.isAlpha_toUpper_eq_isAlpha]
  refine isAlpha_columnLetters col _ ?_
  rw [← h]
  exact List.mem_map_of_mem hc

/-- Column letters in any case are read as their column. -/
theorem column?_of_map_toUpper {cs : List Char} {col : Nat}
    (h : cs.map Char.toUpper = columnLetters col) (hcol : col < maxColumns) :
    column? cs = some col := by
  rw [← column?_map Char.isAlpha_toUpper_eq_isAlpha Char.toUpper_toUpper_eq_toUpper, h,
    column?_columnLetters hcol]

/-! ### Coordinates -/

/-- Letters and the digits behind them are told apart. -/
theorem split_append {letters digits : List Char} (hletters : ∀ c ∈ letters, c.isAlpha)
    (hdigits : ∀ c ∈ digits, c.isDigit) :
    (letters ++ digits).takeWhile (fun c => !c.isDigit) = letters ∧
      (letters ++ digits).dropWhile (fun c => !c.isDigit) = digits := by
  have hnot : ∀ c ∈ letters, (!c.isDigit) = true := by
    intro c hc
    rw [Text.not_isDigit_of_isAlpha (hletters c hc)]
    rfl
  rw [List.takeWhile_append_of_pos hnot, List.dropWhile_append_of_pos hnot]
  cases digits with
  | nil => simp
  | cons d rest => simp [hdigits d List.mem_cons_self]

/-- Letters and digits are read one after the other. -/
theorem bareCoordinate?_append {letters digits : List Char} (hletters : ∀ c ∈ letters, c.isAlpha)
    (hdigits : ∀ c ∈ digits, c.isDigit) (hne : digits ≠ []) :
    bareCoordinate? (letters ++ digits) = (column? letters).bind fun col =>
      if Decimal.ofDigits digits = 0 || maxRows < Decimal.ofDigits digits then none
      else some ⟨Decimal.ofDigits digits - 1, col⟩ := by
  obtain ⟨hfront, hback⟩ := split_append hletters hdigits
  have hall : digits.all Char.isDigit := List.all_eq_true.mpr hdigits
  rw [bareCoordinate?, hfront, hback]
  simp [hall, hne]

/-- A text without blanks whose dollar signs stand among letters and then digits. -/
theorem coordinate?_ofList {cs letters digits : List Char}
    (hcs : ∀ c ∈ cs, Text.isCoordinateChar c)
    (hplain : cs.filter (· != '$') = letters ++ digits) (hletters : ∀ c ∈ letters, c.isAlpha)
    (hdigits : ∀ c ∈ digits, c.isDigit) (hne : digits ≠ []) :
    coordinate? (String.ofList cs) = (column? letters).bind fun col =>
      if Decimal.ofDigits digits = 0 || maxRows < Decimal.ofDigits digits then none
      else some ⟨Decimal.ofDigits digits - 1, col⟩ := by
  have htrim : Text.trimChars cs = cs :=
    Text.trimChars_of_forall fun c hc => Text.not_isBlank_of_isCoordinateChar (hcs c hc)
  rw [coordinate?, String.toList_ofList, htrim, hplain,
    bareCoordinate?_append hletters hdigits hne]

/-- What is read as a coordinate is letters and digits. -/
theorem chars_of_bareCoordinate? {cs : List Char} {p : Coordinate}
    (h : bareCoordinate? cs = some p) : cs ≠ [] ∧ ∀ c ∈ cs, c.isAlpha ∨ c.isDigit := by
  unfold bareCoordinate? at h
  simp only [Option.ite_none_left_eq_some, Bool.or_eq_true, not_or, Bool.not_eq_true] at h
  obtain ⟨⟨hne, hdigits⟩, h⟩ := h
  obtain ⟨col, hcol, -⟩ := Option.bind_eq_some_iff.mp h
  unfold column? at hcol
  simp only [Option.ite_none_left_eq_some, Bool.or_eq_true, not_or] at hcol
  have hletters := hcol.1.2
  rw [Bool.not_eq_true, Bool.not_eq_false'] at hletters
  rw [Bool.not_eq_false'] at hdigits
  have hsplit := List.takeWhile_append_dropWhile (p := fun c => !c.isDigit) (l := cs)
  refine ⟨?_, ?_⟩
  · rintro rfl
    simp at hne
  · intro c hc
    rw [← hsplit, List.mem_append] at hc
    exact hc.imp (List.all_eq_true.mp hletters c) (List.all_eq_true.mp hdigits c)

/-- The case of the letters does not matter. -/
theorem bareCoordinate?_map_toLower (cs : List Char) :
    bareCoordinate? (cs.map Char.toLower) = bareCoordinate? cs := by
  have hsame : (fun c : Char => !c.isDigit) ∘ Char.toLower = fun c : Char => !c.isDigit := by
    funext c
    simp only [Function.comp, Text.isDigit_toLower]
  have hall (ds : List Char) : (ds.map Char.toLower).all Char.isDigit = ds.all Char.isDigit := by
    rw [List.all_map]
    exact congrArg ds.all (funext Text.isDigit_toLower)
  have hcolumn := column?_map Char.isAlpha_toLower_eq_isAlpha Char.toUpper_toLower_eq_toUpper
    (cs.takeWhile fun c => !c.isDigit)
  simp only [bareCoordinate?, List.takeWhile_map, List.dropWhile_map, hsame, List.isEmpty_map, hall,
    hcolumn]
  -- digits have no case, and where there are others nothing is read
  by_cases hdigits : (cs.dropWhile fun c => !c.isDigit).all Char.isDigit
  · have hkept : (cs.dropWhile fun c => !c.isDigit).map Char.toLower =
        cs.dropWhile fun c => !c.isDigit :=
      (List.map_congr_left fun c hc =>
        Text.toLower_eq_self_of_isDigit (List.all_eq_true.mp hdigits c hc)).trans (List.map_id _)
    rw [hkept]
  · rw [if_pos (by simp [hdigits]), if_pos (by simp [hdigits])]

/-- Texts that are equal up to case, apart from the blanks around them, are read alike. -/
theorem coordinate?_congr {s t : String}
    (h : (Text.trimChars s.toList).map Char.toLower = (Text.trimChars t.toList).map Char.toLower) :
    coordinate? s = coordinate? t := by
  have hfilter (cs : List Char) : (cs.filter (· != '$')).map Char.toLower =
      (cs.map Char.toLower).filter (· != '$') := by
    rw [List.filter_map]
    congr 2
    funext c
    rw [Function.comp, Bool.eq_iff_iff, bne_iff_ne, bne_iff_ne, Ne, Ne, Text.toLower_eq_iff rfl]
  rw [coordinate?, coordinate?, ← bareCoordinate?_map_toLower, hfilter, h, ← hfilter,
    bareCoordinate?_map_toLower]

/-- A text that is read as a coordinate holds, apart from the blanks around it, letters, digits and
dollar signs. -/
theorem chars_of_coordinate? {s : String} {p : Coordinate} (h : coordinate? s = some p) :
    Text.trimChars s.toList ≠ [] ∧
      ∀ c ∈ Text.trimChars s.toList, Text.isCoordinateChar c := by
  obtain ⟨hne, hchars⟩ := chars_of_bareCoordinate? h
  refine ⟨?_, ?_⟩
  · intro hnil
    rw [hnil] at hne
    exact hne rfl
  · intro c hc
    by_cases hdollar : c = '$'
    · rw [hdollar]
      rfl
    · have hplain := hchars c (List.mem_filter.mpr ⟨hc, bne_iff_ne.mpr hdollar⟩)
      simpa [Text.isCoordinateChar, hdollar] using hplain

/-- Trimming a text does not change what is read. -/
theorem coordinate?_trim (s : String) : coordinate? (Text.trim s) = coordinate? s := by
  rw [coordinate?, coordinate?, Text.toList_trim, Text.trimChars_trimChars]

end ReportCompiler
