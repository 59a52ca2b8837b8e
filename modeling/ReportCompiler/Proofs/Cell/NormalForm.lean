import Mathlib.Data.List.Shortlex
import ReportCompiler.Proofs.Cell.Coordinates

/-!
# The normal form of a coordinate

A position has one coordinate in capitals without dollar signs and blanks, and many that are read
the same.  They differ from it in nothing else: case, dollar signs, blanks at the ends, and zeros in
front of the row.  Columns have no zero among their letters, so that every list of letters is the
name of exactly one column, and the columns come in the order of a dictionary that has the shorter
words first.

## Main definitions

* `Coordinate.WrittenAs` - the ways to write a position.
* `normalForm` - a text in capitals without blanks, dollar signs and zeros in front.

## Main results

* `shortlex_columnLetters` - **column letters come in the order of the columns.**
* `columnLetters_of_column?` - what is read as a column is its letters up to case.
* `Decimal.dropWhile_zero` - what is read as a number is its digits behind zeros.
* `coordinate?_eq_some_iff` - **a text is read as a position exactly if it is written for it.**
* `coordinate?_normalForm` - reading undoes writing, and writing undoes reading up to normal form.
-/

namespace ReportCompiler

/-! ### Columns in order -/

theorem columnLetter_lt {m n : Nat} (h : m < n) (hn : n < 26) : columnLetter m < columnLetter n := by
  have hm := toNat_columnLetter (h.trans hn)
  have hn := toNat_columnLetter hn
  rw [Char.lt_def, UInt32.lt_iff_toNat_lt, Char.toNat_val, Char.toNat_val]
  omega

/-- One more letter at the end of each does not change the order of two words. -/
theorem shortlex_concat {u v : List Char} (h : List.Shortlex (· < ·) u v) (x y : Char) :
    List.Shortlex (· < ·) (u ++ [x]) (v ++ [y]) := by
  rcases List.shortlex_def.mp h with hlength | ⟨hlength, hlex⟩
  · exact .of_length_lt (by simpa using hlength)
  · refine .of_lex (by simpa using hlength) ?_
    clear h
    induction hlex with
    | nil => cases hlength
    | cons _ ih => exact .cons (ih (Nat.succ.inj hlength))
    | rel hlt => exact .rel hlt

/-- **Column letters come in the order of the columns**: shorter ones first, and those of one length
alphabetically. -/
theorem shortlex_columnLetters {a b : Nat} (h : a < b) :
    List.Shortlex (· < ·) (columnLetters a) (columnLetters b) := by
  fun_induction columnLetters b generalizing a with
  | case1 b hb =>
    rw [columnLetters, dif_pos (h.trans hb), List.shortlex_singleton_iff]
    exact columnLetter_lt h hb
  | case2 b hb ih =>
    rw [columnLetters]
    split
    · -- one letter against at least two
      apply List.Shortlex.of_length_lt
      simpa using List.length_pos_iff.mpr (columnLetters_ne_nil (b / 26 - 1))
    · next ha =>
      rcases Nat.lt_or_ge (a / 26 - 1) (b / 26 - 1) with hlt | hge
      · exact shortlex_concat (ih hlt) _ _
      · have hsame : a / 26 - 1 = b / 26 - 1 := by omega
        rw [hsame]
        refine List.Shortlex.append_left ?_ _
        rw [List.shortlex_singleton_iff]
        exact columnLetter_lt (by omega) (by omega)

theorem columnLetters_injective : Function.Injective columnLetters := by
  intro a b h
  have hvalue := congrArg lettersValue h
  rw [lettersValue_columnLetters, lettersValue_columnLetters] at hvalue
  exact Nat.succ.inj hvalue

/-! ### Columns read back -/

theorem toNat_toUpper_of_isAlpha {c : Char} (h : c.isAlpha) :
    65 ≤ c.toUpper.toNat ∧ c.toUpper.toNat ≤ 90 := by
  have hletter : c.toUpper.isAlpha := by rwa [Char.isAlpha_toUpper_eq_isAlpha]
  rcases (Bool.or_eq_true _ _).mp hletter with hupper | hlower
  · exact of_decide_eq_true hupper
  · rw [Char.isLower_toUpper_eq_false] at hlower
    cases hlower

/-- The letter with the value of a letter is its capital. -/
theorem columnLetter_letterValue {c : Char} (h : c.isAlpha) :
    columnLetter (letterValue c - 1) = c.toUpper := by
  obtain ⟨hlow, hhigh⟩ := toNat_toUpper_of_isAlpha h
  rw [← Char.toNat_inj, toNat_columnLetter] <;>
    · simp only [letterValue, Char.reduceToNat]
      omega

theorem lettersValue_pos {cs : List Char} (hne : cs ≠ []) : 0 < lettersValue cs := by
  rw [← List.dropLast_append_getLast hne, lettersValue_append]
  exact Nat.add_pos_right _ (Nat.succ_pos _)

/-- Letters are those of the column that they stand for, up to case. -/
theorem columnLetters_lettersValue {cs : List Char} (hne : cs ≠ []) (h : ∀ c ∈ cs, c.isAlpha) :
    columnLetters (lettersValue cs - 1) = cs.map Char.toUpper := by
  induction cs using List.reverseRecOn with
  | nil => exact absurd rfl hne
  | append_singleton cs c ih =>
    obtain ⟨hcs, hc⟩ := List.forall_mem_append.mp h
    have hc := hc c (List.mem_singleton_self c)
    have hlast := columnLetter_letterValue hc
    have hvalue : 1 ≤ letterValue c ∧ letterValue c ≤ 26 := by
      have hrange := toNat_toUpper_of_isAlpha hc
      simp only [letterValue, Char.reduceToNat]
      omega
    rw [lettersValue_append, columnLetters]
    cases cs with
    | nil =>
      have hzero : lettersValue [] = 0 := rfl
      rw [dif_pos (by omega), hzero, Nat.zero_mul, Nat.zero_add, hlast]
      rfl
    | cons d ds =>
      specialize ih (List.cons_ne_nil d ds) hcs
      have hpos := lettersValue_pos (List.cons_ne_nil d ds)
      have hfront : (lettersValue (d :: ds) * 26 + letterValue c - 1) / 26 - 1 =
          lettersValue (d :: ds) - 1 := by omega
      have hback : (lettersValue (d :: ds) * 26 + letterValue c - 1) % 26 = letterValue c - 1 := by
        omega
      rw [dif_neg (by omega), hfront, hback, ih, hlast, List.map_append]
      rfl

theorem columnLetters_of_column? {cs : List Char} {col : Nat} (h : column? cs = some col) :
    columnLetters col = cs.map Char.toUpper := by
  unfold column? at h
  simp only [Option.ite_none_left_eq_some, Option.ite_none_right_eq_some, Bool.or_eq_true, not_or,
    Bool.not_eq_true, Bool.not_eq_false'] at h
  obtain ⟨⟨⟨hne, -⟩, halpha⟩, -, heq⟩ := h
  rw [← Option.some.inj heq]
  exact columnLetters_lettersValue (by simpa using hne) (List.all_eq_true.mp halpha)

/-! ### Rows read back -/

namespace Decimal

theorem digitValue_lt {c : Char} (h : c.isDigit) : digitValue c < 10 := by
  have hhigh := Text.toNat_le_of_isDigit h
  simp only [digitValue, Char.reduceToNat]
  omega

theorem toDigits_digitValue {c : Char} (h : c.isDigit) : Nat.toDigits 10 (digitValue c) = [c] := by
  have hlow := Text.le_toNat_of_isDigit h
  have hlt := digitValue_lt h
  rw [Nat.toDigits_of_lt_base hlt, List.singleton_inj, ← Char.toNat_inj,
    Nat.toNat_digitChar_of_lt_ten hlt]
  simp only [digitValue, Char.reduceToNat]
  omega

/-- Digits behind those of a number are digits of a number. -/
theorem toDigits_append {n : Nat} (hn : 0 < n) {ds : List Char} (h : ∀ c ∈ ds, c.isDigit) :
    Nat.toDigits 10 n ++ ds = Nat.toDigits 10 (ds.foldl (fun n c => n * 10 + digitValue c) n) := by
  induction ds generalizing n with
  | nil => rw [List.append_nil, List.foldl_nil]
  | cons c ds ih =>
    obtain ⟨hc, hds⟩ := List.forall_mem_cons.mp h
    have hlast := Nat.toDigits_append_toDigits (b := 10) (by decide) hn (digitValue_lt hc)
    rw [toDigits_digitValue hc] at hlast
    rw [List.append_cons, hlast, Nat.mul_comm, ih (by omega) hds, List.foldl_cons]

/-- Digits that stand for a number are those of the number, behind zeros. -/
theorem dropWhile_zero {ds : List Char} (h : ∀ c ∈ ds, c.isDigit) (hpos : 0 < ofDigits ds) :
    ds.dropWhile (· == '0') = Nat.toDigits 10 (ofDigits ds) := by
  induction ds with
  | nil => cases hpos
  | cons c ds ih =>
    obtain ⟨hc, hds⟩ := List.forall_mem_cons.mp h
    by_cases hzero : c = '0'
    · subst hzero
      exact ih hds hpos
    · have hvalue : 0 < digitValue c := by
        have hlow := Text.le_toNat_of_isDigit hc
        have hne : c.toNat ≠ 48 := fun heq => hzero (Char.toNat_inj.mp heq)
        simp only [digitValue, Char.reduceToNat]
        omega
      have happend := toDigits_append hvalue hds
      rw [toDigits_digitValue hc] at happend
      rw [List.dropWhile_cons_of_neg (by simpa using hzero), ofDigits, List.foldl_cons,
        Nat.zero_mul, Nat.zero_add, ← happend, List.singleton_append]

theorem exists_zeros {ds : List Char} (h : ∀ c ∈ ds, c.isDigit) (hpos : 0 < ofDigits ds) :
    ∃ zeros, ds = List.replicate zeros '0' ++ Nat.toDigits 10 (ofDigits ds) := by
  have hzeros : ds.takeWhile (· == '0') =
      List.replicate (ds.takeWhile (· == '0')).length '0' := by
    refine List.eq_replicate_of_mem fun c hc => ?_
    have hzero := List.mem_takeWhile_imp (p := (· == '0')) hc
    exact beq_iff_eq.mp hzero
  have hsplit := List.takeWhile_append_dropWhile (p := (· == '0')) (l := ds)
  rw [hzeros, dropWhile_zero h hpos] at hsplit
  exact ⟨_, hsplit.symm⟩

theorem ofDigits_zeros (zeros : Nat) (ds : List Char) :
    ofDigits (List.replicate zeros '0' ++ ds) = ofDigits ds := by
  induction zeros with
  | zero => rfl
  | succ zeros ih => exact ih

end Decimal

/-! ### Coordinates read back -/

/-- The ways to write a position: the letters of its column in any case, some zeros and its row,
with blanks at the ends and dollar signs anywhere. -/
def Coordinate.WrittenAs (p : Coordinate) (cs : List Char) : Prop :=
  ∃ (letters : List Char) (zeros : Nat),
    (Text.trimChars cs).filter (· != '$') =
        letters ++ (List.replicate zeros '0' ++ Nat.toDigits 10 (p.row + 1)) ∧
      letters.map Char.toUpper = columnLetters p.col

/-- The text without blanks at the ends and without dollar signs, with what stands before the first
digit in capitals and without zeros behind that. -/
def normalForm (cs : List Char) : List Char :=
  let plain := (Text.trimChars cs).filter (· != '$')
  (plain.takeWhile fun c => !c.isDigit).map Char.toUpper ++
    (plain.dropWhile fun c => !c.isDigit).dropWhile (· == '0')

/-- What is read as a coordinate is letters that are read as a column, and digits that are read as a
row. -/
theorem exists_of_bareCoordinate? {cs : List Char} {p : Coordinate}
    (h : bareCoordinate? cs = some p) :
    column? (cs.takeWhile fun c => !c.isDigit) = some p.col ∧
      (∀ c ∈ cs.dropWhile fun c => !c.isDigit, c.isDigit) ∧
        Decimal.ofDigits (cs.dropWhile fun c => !c.isDigit) = p.row + 1 ∧ p.row < maxRows := by
  unfold bareCoordinate? at h
  simp only [Option.ite_none_left_eq_some, Bool.or_eq_true, not_or, Bool.not_eq_true,
    Bool.not_eq_false', Option.bind_eq_some_iff, decide_eq_true_eq] at h
  obtain ⟨⟨-, hdigits⟩, col, hcol, ⟨hzero, hlimit⟩, heq⟩ := h
  obtain rfl := Option.some.inj heq
  refine ⟨hcol, List.all_eq_true.mp hdigits, ?_, ?_⟩ <;>
    · dsimp only
      omega

/-- **A text is read as a position exactly if it is written for it**, and the position lies on a
sheet. -/
theorem coordinate?_eq_some_iff {s : String} {p : Coordinate} :
    coordinate? s = some p ↔ p.InSheet ∧ p.WrittenAs s.toList := by
  constructor
  · intro h
    obtain ⟨hcol, hdigits, hrow, hlimit⟩ := exists_of_bareCoordinate? h
    obtain ⟨zeros, hzeros⟩ := Decimal.exists_zeros hdigits (by omega)
    refine ⟨⟨hlimit, lt_of_column? hcol⟩, _, zeros, ?_, (columnLetters_of_column? hcol).symm⟩
    rw [← hrow, ← hzeros, List.takeWhile_append_dropWhile]
  · rintro ⟨hsheet, letters, zeros, hplain, hletters⟩
    have hdigits : ∀ c ∈ List.replicate zeros '0' ++ Nat.toDigits 10 (p.row + 1), c.isDigit := by
      refine List.forall_mem_append.mpr ⟨fun c hc => ?_, fun c hc => ?_⟩
      · rw [List.eq_of_mem_replicate hc]
        rfl
      · exact Decimal.isDigit_toDigits _ c hc
    have hne : List.replicate zeros '0' ++ Nat.toDigits 10 (p.row + 1) ≠ [] :=
      List.append_ne_nil_of_right_ne_nil _ Nat.toDigits_ne_nil
    have hlimit : ¬ maxRows < p.row + 1 := Nat.not_lt.mpr hsheet.1
    rw [coordinate?, hplain, bareCoordinate?_append (isAlpha_of_map_toUpper hletters) hdigits hne,
      column?_of_map_toUpper hletters hsheet.2, Decimal.ofDigits_zeros, Decimal.ofDigits_toDigits]
    simp [hlimit]

/-- What is read as a position has its normal form. -/
theorem normalForm_of_coordinate? {s : String} {p : Coordinate} (h : coordinate? s = some p) :
    normalForm s.toList = p.chars := by
  obtain ⟨hcol, hdigits, hrow, -⟩ := exists_of_bareCoordinate? h
  rw [normalForm, ← columnLetters_of_column? hcol, Decimal.dropWhile_zero hdigits (by omega), hrow,
    Coordinate.chars]

/-- The text of a position is one of the ways to write it. -/
theorem Coordinate.writtenAs_text (p : Coordinate) : p.WrittenAs p.text.toList := by
  have hletters := isAlpha_columnLetters p.col
  have hdigits := Decimal.isDigit_toDigits (p.row + 1)
  have hchars := Text.isCoordinateChar_append hletters hdigits
  have htrim : Text.trimChars p.chars = p.chars :=
    Text.trimChars_of_forall fun c hc => Text.not_isBlank_of_isCoordinateChar (hchars c hc)
  refine ⟨columnLetters p.col, 0, ?_, ?_⟩
  · rw [text, String.toList_ofList, htrim, chars, Text.filter_dollar_append hletters hdigits]
    rfl
  · refine (List.map_congr_left fun c hc => ?_).trans (List.map_id _)
    exact Char.toUpper_eq_of_not_isLower (Char.not_isLower_of_isUpper (isUpper_columnLetters _ c hc))

/-- **Reading undoes writing, and writing undoes reading up to normal form.**  Every position on a
sheet is read from its text; a text that is read as a position has its normal form, and the position
lies on a sheet.  Different columns have different letters, which come in the order of the
columns. -/
theorem coordinate?_normalForm :
    (∀ p : Coordinate, p.InSheet → coordinate? p.text = some p) ∧
      (∀ (s : String) (p : Coordinate), coordinate? s = some p →
        p.InSheet ∧ normalForm s.toList = p.chars) ∧
      Function.Injective columnLetters ∧
      ∀ a b : Nat, a < b → List.Shortlex (· < ·) (columnLetters a) (columnLetters b) := by
  refine ⟨fun p hp => ?_, fun s p h => ?_, columnLetters_injective, fun _ _ => shortlex_columnLetters⟩
  · exact coordinate?_eq_some_iff.mpr ⟨hp, p.writtenAs_text⟩
  · exact ⟨(coordinate?_eq_some_iff.mp h).1, normalForm_of_coordinate? h⟩

/-- A coordinate in mixed case with blanks, dollar signs and zeros, and the last cell of a sheet. -/
theorem coordinate?_normalForm_paddedRow :
    coordinate? " $aB$0030\t" = some ⟨29, 27⟩ ∧
      normalForm " $aB$0030\t".toList = Coordinate.chars ⟨29, 27⟩ ∧
        (⟨1048575, 16383⟩ : Coordinate).InSheet ∧
          coordinate? (Coordinate.text ⟨1048575, 16383⟩) = some ⟨1048575, 16383⟩ := by
  obtain ⟨hwrite, hread, -⟩ := coordinate?_normalForm
  have hpadded : coordinate? " $aB$0030\t" = some ⟨29, 27⟩ := by decide
  have hlast : (⟨1048575, 16383⟩ : Coordinate).InSheet := by decide
  exact ⟨hpadded, (hread _ _ hpadded).2, hlast, hwrite _ hlast⟩

end ReportCompiler
