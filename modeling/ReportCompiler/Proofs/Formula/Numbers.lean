import Mathlib.Algebra.Field.Rat
import Mathlib.Algebra.GroupWithZero.Basic
import Mathlib.Tactic.FieldSimp
import Mathlib.Tactic.Ring
import ReportCompiler.Proofs.Formula.Rules
import ReportCompiler.Proofs.Target.OneLine

/-!
# Numbers of formulas as literals of the program

A number of a formula goes into the program as it is written.  The two languages write numbers in
almost the same way: digits, a point, an exponent.  They differ in one place.  A whole number may
begin with zeros in a formula, and in the program it may not, unless it has no other digit.  So a
number of a formula is a literal of the program exactly if it is not a whole number with zeros in
front, and then it is the same decimal there.

## Main definitions

* `Decimal.Scaled.toRat` - the number that a decimal is.
* `Target.decimalValue?` - the decimal that a literal of the program denotes.
* `isPadded` - a whole number with zeros in front of another digit.

## Main results

* `Decimal.numeral?_parts` - what a numeral of a formula is made of.
* `Target.decimalValue?_digits` - **digits are a literal of the program exactly if they are not
  padded.**
* `Target.decimalValue?_marked` - with a point or an exponent a numeral is a literal, and denotes the
  same decimal.
* `number_operand_literal_iff` - both for every number of every formula.
-/

namespace ReportCompiler

/-! ### Decimals -/

namespace Decimal

/-- The number that a decimal is. -/
def Scaled.toRat (s : Scaled) : ℚ :=
  s.digits * 10 ^ s.exponent

theorem foldl_digits (cs : List Char) (n : Nat) :
    cs.foldl (fun n c => n * 10 + digitValue c) n = n * 10 ^ cs.length + ofDigits cs := by
  induction cs generalizing n with
  | nil => simp [ofDigits]
  | cons c rest ih =>
    rw [ofDigits, List.foldl_cons, List.foldl_cons, ih, ih, List.length_cons]
    ring

theorem ofDigits_append (as bs : List Char) :
    ofDigits (as ++ bs) = ofDigits as * 10 ^ bs.length + ofDigits bs := by
  rw [ofDigits, List.foldl_append, foldl_digits]
  rfl

theorem splitFraction_cases (cs : List Char) : splitFraction cs = ([], cs) ∨
    ∃ digits rest, cs = '.' :: digits ++ rest ∧ (∀ c ∈ digits, c.isDigit) ∧
      splitFraction cs = (digits, rest) := by
  unfold splitFraction
  split
  case h_1 rest =>
    refine .inr ⟨rest.takeWhile Char.isDigit, rest.dropWhile Char.isDigit, ?_,
      fun c => List.mem_takeWhile_imp, rfl⟩
    rw [List.cons_append, List.takeWhile_append_dropWhile]
  case h_2 => exact .inl rfl

/-- A numeral is digits, perhaps with a point among them, and an exponent. -/
theorem numeral?_parts {cs : List Char} {n : Numeral} (h : numeral? cs = some n) :
    ∃ point exponent, cs = n.whole ++ point ++ exponent ∧
      (point = [] ∧ n.fraction = [] ∨ point = '.' :: n.fraction) ∧
      (∀ c ∈ n.whole ++ n.fraction, c.isDigit) ∧ n.whole ++ n.fraction ≠ [] ∧
      power? exponent = some n.power := by
  have hsplit := List.takeWhile_append_dropWhile (p := Char.isDigit) (l := cs)
  have hwhole : ∀ c ∈ cs.takeWhile Char.isDigit, c.isDigit := fun c => List.mem_takeWhile_imp
  unfold numeral? at h
  generalize cs.takeWhile Char.isDigit = whole at h hsplit hwhole
  generalize cs.dropWhile Char.isDigit = tail at h hsplit
  obtain hnone | ⟨digits, rest, rfl, hdigits, hsome⟩ := splitFraction_cases tail
  · simp only [hnone] at h
    split at h
    case isTrue => cases h
    case isFalse hne =>
      obtain ⟨k, hk, rfl⟩ := Option.map_eq_some_iff.mp h
      refine ⟨[], tail, ?_, .inl ⟨rfl, rfl⟩, ?_, ?_, hk⟩
      · rw [List.append_nil, hsplit]
      · rwa [List.append_nil]
      · simpa using hne
  · simp only [hsome] at h
    split at h
    case isTrue => cases h
    case isFalse hne =>
      obtain ⟨k, hk, rfl⟩ := Option.map_eq_some_iff.mp h
      refine ⟨'.' :: digits, rest, ?_, .inr rfl, ?_, ?_, hk⟩
      · rw [List.append_assoc, hsplit]
      · exact List.forall_mem_append.mpr ⟨hwhole, hdigits⟩
      · simpa using hne

end Decimal

/-! ### The decimals of literals -/

namespace Target

open Decimal (ofDigits)

/-- The number of digits in a radix; underscores between them do not count. -/
def digitsValue (radix : Nat) (cs : List Char) : Nat :=
  (cs.filter (· != '_')).foldl (fun n c => n * radix + (Text.hexDigit? c).getD 0) 0

/-- The radix that a letter announces. -/
def radix? (c : Char) : Option Nat :=
  if c = 'x' || c = 'X' then some 16
  else if c = 'o' || c = 'O' then some 8
  else if c = 'b' || c = 'B' then some 2
  else none

/-- The number of a whole literal. -/
def integerValue : List Char → Nat
  | '0' :: r :: rest =>
    match radix? r with
    | some radix => digitsValue radix rest
    | none => digitsValue 10 (r :: rest)
  | cs => digitsValue 10 cs

/-- The number of a mantissa. -/
def mantissaValue (cs : List Char) : ℚ :=
  match splitAtFirst (· = '.') cs with
  | none => digitsValue 10 cs
  | some (whole, fraction) =>
    digitsValue 10 whole + digitsValue 10 fraction / 10 ^ (fraction.filter (· != '_')).length

/-- The number of an exponent, with its sign. -/
def exponentValue : List Char → Int
  | '-' :: digits => -(digitsValue 10 digits)
  | cs => digitsValue 10 (dropOne (· = '+') cs)

/-- The number of a literal with a point or an exponent, before it is rounded. -/
def floatValue (cs : List Char) : ℚ :=
  match splitAtFirst (fun c => c = 'e' || c = 'E') cs with
  | none => mantissaValue cs
  | some (mantissa, exponent) => mantissaValue mantissa * 10 ^ exponentValue exponent

/-- The decimal that a literal denotes.  Imaginary literals denote none. -/
def decimalValue? (cs : List Char) : Option ℚ :=
  if isInteger cs then some (integerValue cs)
  else if isFloat cs then some (floatValue cs)
  else none

/-! ### Digits -/

theorem ne_of_isDigit {c d : Char} (h : c.isDigit) (hd : d.isDigit = false) : c ≠ d := by
  rintro rfl
  rw [h] at hd
  cases hd

theorem filter_digits {cs : List Char} (h : ∀ c ∈ cs, c.isDigit) : cs.filter (· != '_') = cs := by
  rw [List.filter_eq_self]
  exact fun c hc => bne_iff_ne.mpr (ne_of_isDigit (h c hc) rfl)

theorem digitsValue_eq {cs : List Char} (h : ∀ c ∈ cs, c.isDigit) :
    digitsValue 10 cs = ofDigits cs := by
  rw [digitsValue, filter_digits h, ofDigits]
  refine List.foldl_ext _ _ _ fun n c hc => ?_
  rw [Text.hexDigit?, if_pos (h c hc), Option.getD_some, Decimal.digitValue]

/-- A whole number with zeros in front of another digit. -/
def isPadded : List Char → Bool
  | '0' :: rest => rest.all Char.isDigit && rest.any (· != '0')
  | _ => false

/-- No letter of a radix is found in decimals. -/
def isDecimalChar (c : Char) : Bool :=
  c.isDigit || ['.', 'e', 'E', '+', '-'].contains c

theorem radix?_of_isDecimalChar {c : Char} (h : isDecimalChar c) :
    radixDigits? c = none ∧ radix? c = none := by
  simp only [isDecimalChar, Bool.or_eq_true, List.contains_iff_mem, List.mem_cons,
    List.not_mem_nil, or_false] at h
  rcases h with h | rfl | rfl | rfl | rfl | rfl
  · have hne {d : Char} (hd : d.isDigit = false) : c ≠ d := ne_of_isDigit h hd
    have hx := hne (d := 'x') rfl
    have hX := hne (d := 'X') rfl
    have ho := hne (d := 'o') rfl
    have hO := hne (d := 'O') rfl
    have hb := hne (d := 'b') rfl
    have hB := hne (d := 'B') rfl
    simp [radixDigits?, radix?, hx, hX, ho, hO, hb, hB]
  all_goals decide

theorem isDecimalChar_of_isDigit {c : Char} (h : c.isDigit) : isDecimalChar c := by
  simp [isDecimalChar, h]

/-- Without the letter of a radix, a whole number has digits only. -/
theorem isInteger_eq_false {cs : List Char} (h : ∀ c ∈ cs, isDecimalChar c) {c : Char} (hc : c ∈ cs)
    (hmark : c.isDigit = false) : isInteger cs = false := by
  have hdigits : isDigits Char.isDigit cs = false := by
    rw [Bool.eq_false_iff]
    intro hdigits
    rcases isDigits_all hdigits c hc with hdigit | rfl
    · exact ne_of_isDigit hdigit hmark rfl
    · exact absurd (h _ hc) (by decide)
  unfold isInteger
  split
  case h_1 r rest =>
    have hr := (radix?_of_isDecimalChar (h r (by simp))).1
    simp only [hr, hdigits, Bool.false_and]
  case h_2 => exact hdigits

/-- Digits are a whole number unless they are padded. -/
theorem isInteger_digits {cs : List Char} (hne : cs ≠ []) (h : ∀ c ∈ cs, c.isDigit) :
    isInteger cs = !isPadded cs := by
  have hdigits := isDigits_of_forall hne h
  unfold isInteger
  split
  case h_1 r rest =>
    have hrest : ∀ c ∈ r :: rest, c.isDigit := fun c hc => h c (List.mem_cons_of_mem _ hc)
    have hr := (radix?_of_isDecimalChar (isDecimalChar_of_isDigit (hrest r List.mem_cons_self))).1
    have hall : (r :: rest).all Char.isDigit := List.all_eq_true.mpr hrest
    simp only [hr, hdigits, isPadded, hall, Bool.true_and]
    rw [List.not_any_eq_all_not, Bool.eq_iff_iff, List.all_eq_true, List.all_eq_true]
    refine forall₂_congr fun c hc => ?_
    have hunderscore := ne_of_isDigit (d := '_') (hrest c hc) rfl
    simp [hunderscore]
  case h_2 hshort =>
    rw [hdigits]
    unfold isPadded
    split
    case h_1 rest =>
      cases rest with
      | nil => rfl
      | cons r rest => exact absurd rfl (hshort r rest)
    case h_2 => rfl

theorem integerValue_digits {cs : List Char} (h : ∀ c ∈ cs, c.isDigit) :
    integerValue cs = ofDigits cs := by
  unfold integerValue
  split
  case h_1 r rest =>
    have hrest : ∀ c ∈ r :: rest, c.isDigit := fun c hc => h c (List.mem_cons_of_mem _ hc)
    have hr := (radix?_of_isDecimalChar (isDecimalChar_of_isDigit (hrest r List.mem_cons_self))).2
    simp only [hr]
    exact digitsValue_eq hrest
  case h_2 => exact digitsValue_eq h

/-! ### Where numerals are split -/

theorem splitAtFirst_append {p : Char → Bool} {front rest : List Char} {c : Char}
    (h : ∀ d ∈ front, p d = false) (hc : p c) :
    splitAtFirst p (front ++ c :: rest) = some (front, rest) := by
  induction front with
  | nil => exact if_pos hc
  | cons d front ih =>
    obtain ⟨hd, hfront⟩ := List.forall_mem_cons.mp h
    rw [List.cons_append, splitAtFirst, if_neg (Bool.eq_false_iff.mp hd), ih hfront]
    rfl

theorem splitAtFirst_eq_none {p : Char → Bool} {cs : List Char} (h : ∀ d ∈ cs, p d = false) :
    splitAtFirst p cs = none := by
  induction cs with
  | nil => rfl
  | cons d rest ih =>
    obtain ⟨hd, hrest⟩ := List.forall_mem_cons.mp h
    rw [splitAtFirst, if_neg (Bool.eq_false_iff.mp hd), ih hrest]
    rfl

/-- Digits with at most one point among them are a mantissa. -/
theorem mantissa_of_parts {whole fraction point : List Char}
    (hpoint : point = [] ∧ fraction = [] ∨ point = '.' :: fraction)
    (hdigits : ∀ c ∈ whole ++ fraction, c.isDigit) (hne : whole ++ fraction ≠ []) :
    isMantissa (whole ++ point) ∧
      mantissaValue (whole ++ point) = ofDigits (whole ++ fraction) / 10 ^ fraction.length := by
  have hplain : ∀ c ∈ whole ++ fraction, decide (c = '.') = false := fun c hc =>
    decide_eq_false (ne_of_isDigit (hdigits c hc) rfl)
  rw [List.forall_mem_append] at hplain
  rcases hpoint with ⟨rfl, rfl⟩ | rfl
  · rw [List.append_nil] at hdigits hne ⊢
    have hsplit := splitAtFirst_eq_none hplain.1
    simp only [isMantissa, mantissaValue, hsplit, isDigits_of_forall hne hdigits,
      digitsValue_eq hdigits, List.length_nil, pow_zero, div_one, and_self]
  · have hsplit : splitAtFirst (· = '.') (whole ++ '.' :: fraction) = some (whole, fraction) :=
      splitAtFirst_append hplain.1 rfl
    rw [List.forall_mem_append] at hdigits
    obtain ⟨hwhole, hfraction⟩ := hdigits
    have hpart {part : List Char} (h : ∀ c ∈ part, c.isDigit) :
        (part.isEmpty || isDigits Char.isDigit part) = true := by
      cases part with
      | nil => rfl
      | cons c rest => exact isDigits_of_forall (by simp) h
    simp only [isMantissa, mantissaValue, hsplit, hpart hwhole, hpart hfraction,
      digitsValue_eq hwhole, digitsValue_eq hfraction, filter_digits hfraction,
      Decimal.ofDigits_append]
    constructor
    · simpa [Classical.or_iff_not_imp_left] using hne
    · push_cast
      field_simp

/-- What is read as an exponent: a mark, perhaps a sign, and digits. -/
theorem power?_parts {mark : Char} {rest : List Char} {k : Int}
    (h : Decimal.power? (mark :: rest) = some k) : (mark = 'e' ∨ mark = 'E') ∧
      ∃ digits, digits ≠ [] ∧ (∀ c ∈ digits, c.isDigit) ∧
        ((rest = digits ∨ rest = '+' :: digits) ∧ k = ofDigits digits ∨
          rest = '-' :: digits ∧ k = -(ofDigits digits : Int)) := by
  rw [Decimal.power?] at h
  split at h
  case isFalse => cases h
  case isTrue hmark =>
    refine ⟨by simpa using hmark, (Decimal.splitSign rest).2, ?_⟩
    cases hread : Decimal.exponentDigits? (Decimal.splitSign rest).2 with
    | none => simp [hread] at h
    | some m =>
      have hk : (if (Decimal.splitSign rest).1 then -(m : Int) else m) = k := by
        simpa [hread] using h
      unfold Decimal.exponentDigits? at hread
      split at hread
      case isFalse => cases hread
      case isTrue hdigits =>
        obtain rfl := Option.some.inj hread
        simp only [Bool.and_eq_true, Bool.not_eq_true', List.isEmpty_eq_false_iff,
          List.all_eq_true] at hdigits
        refine ⟨hdigits.1, hdigits.2, ?_⟩
        rw [← hk]
        unfold Decimal.splitSign
        split
        · exact .inr ⟨rfl, rfl⟩
        · exact .inl ⟨.inr rfl, rfl⟩
        · exact .inl ⟨.inl rfl, rfl⟩

theorem dropOne_digits {p : Char → Bool} (hp : ∀ c, c.isDigit → p c = false) {digits : List Char}
    (h : ∀ c ∈ digits, c.isDigit) : dropOne p digits = digits := by
  cases digits with
  | nil => rfl
  | cons c rest => exact if_neg (Bool.eq_false_iff.mp (hp c (h c List.mem_cons_self)))

/-- What is read as an exponent is one, with the same number. -/
theorem exponent_of_power? {mark : Char} {rest : List Char} {k : Int}
    (h : Decimal.power? (mark :: rest) = some k) :
    isDigits Char.isDigit (dropOne (fun c => c = '+' || c = '-') rest) ∧ exponentValue rest = k := by
  obtain ⟨-, digits, hne, hall, ⟨rfl | rfl, rfl⟩ | ⟨rfl, rfl⟩⟩ := power?_parts h
  · have hsign {c : Char} (hc : c.isDigit) : c ≠ '+' ∧ c ≠ '-' :=
      ⟨ne_of_isDigit hc rfl, ne_of_isDigit hc rfl⟩
    rw [dropOne_digits (fun c hc => by simp [hsign hc]) hall]
    refine ⟨isDigits_of_forall hne hall, ?_⟩
    unfold exponentValue
    split
    case h_1 => exact absurd rfl (hsign (hall _ List.mem_cons_self)).2
    case h_2 =>
      rw [dropOne_digits (fun c hc => by simp [hsign hc]) hall, digitsValue_eq hall]
  · refine ⟨isDigits_of_forall hne hall, ?_⟩
    rw [← digitsValue_eq hall]
    rfl
  · refine ⟨isDigits_of_forall hne hall, ?_⟩
    rw [← digitsValue_eq hall]
    rfl

/-! ### Numerals -/

/-- **Digits are a literal exactly if they are not padded**, and then they denote their number. -/
theorem decimalValue?_digits {cs : List Char} (hne : cs ≠ []) (h : ∀ c ∈ cs, c.isDigit) :
    isNumeral cs = !isPadded cs ∧
      decimalValue? cs = if isPadded cs then none else some (ofDigits cs : ℚ) := by
  have hinteger := isInteger_digits hne h
  have hfloat : isFloat cs = false := by
    have hsplit : splitAtFirst (fun c => c = 'e' || c = 'E') cs = none :=
      splitAtFirst_eq_none fun c hc => by
        simp [ne_of_isDigit (d := 'e') (h c hc) rfl, ne_of_isDigit (d := 'E') (h c hc) rfl]
    have hpoint : '.' ∉ cs := fun hmem => absurd (h _ hmem) (by decide)
    simp [isFloat, hsplit, hpoint]
  have himaginary : isImaginary cs = false := by
    rw [Bool.eq_false_iff]
    intro himaginary
    obtain ⟨front, j, rfl, hj, -⟩ := isImaginary_eq himaginary
    have hdigit := h j (by simp)
    rcases hj with rfl | rfl <;> exact absurd hdigit (by decide)
  rw [isNumeral, decimalValue?, hinteger, hfloat, himaginary, integerValue_digits h]
  cases isPadded cs <;> simp

theorem isDigit_of_isPadded {cs : List Char} (h : isPadded cs) : ∀ c ∈ cs, c.isDigit := by
  unfold isPadded at h
  split at h
  case h_1 rest =>
    rw [Bool.and_eq_true, List.all_eq_true] at h
    exact List.forall_mem_cons.mpr ⟨by decide, h.1⟩
  case h_2 => cases h

theorem isDecimalChar_of_power? {cs : List Char} {k : Int} (h : Decimal.power? cs = some k) :
    ∀ c ∈ cs, isDecimalChar c := by
  cases cs with
  | nil => nofun
  | cons mark rest =>
    obtain ⟨hmark, digits, -, hall, hrest⟩ := power?_parts h
    have hdigits : ∀ c ∈ digits, isDecimalChar c := fun c hc => isDecimalChar_of_isDigit (hall c hc)
    refine List.forall_mem_cons.mpr ⟨by rcases hmark with rfl | rfl <;> decide, ?_⟩
    rcases hrest with ⟨rfl | rfl, -⟩ | ⟨rfl, -⟩
    · exact hdigits
    · exact List.forall_mem_cons.mpr ⟨by decide, hdigits⟩
    · exact List.forall_mem_cons.mpr ⟨by decide, hdigits⟩

section

variable {n : Decimal.Numeral} {point exponent : List Char}
  (hpoint : point = [] ∧ n.fraction = [] ∨ point = '.' :: n.fraction)
  (hdigits : ∀ c ∈ n.whole ++ n.fraction, c.isDigit)
include hpoint hdigits

theorem mantissa_chars : ∀ c ∈ n.whole ++ point, c.isDigit ∨ c = '.' := by
  rw [List.forall_mem_append] at hdigits ⊢
  refine ⟨fun c hc => .inl (hdigits.1 c hc), ?_⟩
  rcases hpoint with ⟨rfl, -⟩ | rfl
  · nofun
  · exact List.forall_mem_cons.mpr ⟨.inr rfl, fun c hc => .inl (hdigits.2 c hc)⟩

/-- A point or the mark of an exponent is no digit, and no letter of a radix either. -/
theorem isInteger_marked (hpower : Decimal.power? exponent = some n.power)
    (hmarked : point ++ exponent ≠ []) :
    isInteger (n.whole ++ point ++ exponent) = false ∧
      isPadded (n.whole ++ point ++ exponent) = false := by
  have hchars : ∀ c ∈ n.whole ++ point ++ exponent, isDecimalChar c := by
    refine List.forall_mem_append.mpr ⟨fun c hc => ?_, isDecimalChar_of_power? hpower⟩
    rcases mantissa_chars hpoint hdigits c hc with hdigit | rfl
    · exact isDecimalChar_of_isDigit hdigit
    · decide
  have hmark : ∃ c ∈ n.whole ++ point ++ exponent, c.isDigit = false := by
    rcases hpoint with ⟨rfl, -⟩ | rfl
    · obtain ⟨mark, rest, rfl⟩ := List.exists_cons_of_ne_nil hmarked
      refine ⟨mark, by simp, ?_⟩
      rcases (power?_parts hpower).1 with rfl | rfl <;> rfl
    · exact ⟨'.', by simp, rfl⟩
  obtain ⟨c, hc, hnot⟩ := hmark
  refine ⟨isInteger_eq_false hchars hc hnot, Bool.eq_false_iff.mpr fun hpadded => ?_⟩
  exact ne_of_isDigit (isDigit_of_isPadded hpadded c hc) hnot rfl

theorem float_of_parts (hne : n.whole ++ n.fraction ≠ [])
    (hpower : Decimal.power? exponent = some n.power) (hmarked : point ++ exponent ≠ []) :
    isFloat (n.whole ++ point ++ exponent) ∧
      floatValue (n.whole ++ point ++ exponent) = n.value.toRat := by
  obtain ⟨hmantissa, hvalue⟩ := mantissa_of_parts hpoint hdigits hne
  have hbefore : ∀ c ∈ n.whole ++ point, (c = 'e' || c = 'E') = false := by
    intro c hc
    rcases mantissa_chars hpoint hdigits c hc with hdigit | rfl
    · simp [ne_of_isDigit (d := 'e') hdigit rfl, ne_of_isDigit (d := 'E') hdigit rfl]
    · decide
  have hscaled : n.value.toRat =
      ofDigits (n.whole ++ n.fraction) / 10 ^ n.fraction.length * 10 ^ n.power := by
    rw [Decimal.Scaled.toRat, Decimal.Numeral.value, zpow_sub₀ (by norm_num), zpow_natCast]
    ring
  cases exponent with
  | nil =>
    have hsplit : splitAtFirst (fun c => c = 'e' || c = 'E') (n.whole ++ point) = none :=
      splitAtFirst_eq_none hbefore
    obtain rfl : point = '.' :: n.fraction := by
      rcases hpoint with ⟨rfl, -⟩ | hpoint
      · exact absurd rfl hmarked
      · exact hpoint
    obtain hzero : 0 = n.power := Option.some.inj hpower
    rw [List.append_nil, isFloat, floatValue, hsplit, hscaled, ← hzero, zpow_zero, mul_one]
    exact ⟨by simpa using hmantissa, hvalue⟩
  | cons mark rest =>
    obtain ⟨hexponent, hrest⟩ := exponent_of_power? hpower
    have hsplit : splitAtFirst (fun c => c = 'e' || c = 'E') (n.whole ++ point ++ mark :: rest) =
        some (n.whole ++ point, rest) :=
      splitAtFirst_append hbefore (by simpa using (power?_parts hpower).1)
    rw [isFloat, floatValue, hsplit, hscaled]
    simp only [hmantissa, hexponent, hvalue, hrest, Bool.and_self, and_self]

/-- With a point or an exponent a numeral is a literal, and denotes the same decimal. -/
theorem decimalValue?_marked (hne : n.whole ++ n.fraction ≠ [])
    (hpower : Decimal.power? exponent = some n.power) (hmarked : point ++ exponent ≠ []) :
    isNumeral (n.whole ++ point ++ exponent) ∧ isPadded (n.whole ++ point ++ exponent) = false ∧
      decimalValue? (n.whole ++ point ++ exponent) = some n.value.toRat := by
  obtain ⟨hinteger, hpadded⟩ := isInteger_marked hpoint hdigits hpower hmarked
  obtain ⟨hfloat, hvalue⟩ := float_of_parts hpoint hdigits hne hpower hmarked
  rw [isNumeral, decimalValue?, hinteger, hfloat, hvalue]
  exact ⟨rfl, hpadded, rfl⟩

end

end Target

/-! ### Operands -/

namespace Formula

open Target (isPadded)

variable {formula : String} {ts : List Token} {t : Token}

theorem isNumeral_of_number (h : tokenize formula = .ok ts) (ht : t ∈ ts)
    (hkind : t.kind = .operand) (hsort : t.subkind = .number) :
    Decimal.isNumeral t.value.toList :=
  isNumeral_of_operandSubkind (((proper_of_tokenize h t ht).sorted hkind).symm.trans hsort)

/-- **A number of a formula is a literal of the program exactly if it is not a whole number with
zeros in front.**  It goes into the program as it is written.  As a literal it denotes the same
decimal there as in the formula; a padded one denotes nothing. -/
theorem number_operand_literal_iff (h : tokenize formula = .ok ts) (ht : t ∈ ts)
    (hnumber : t.is .operand .number) :
    (∀ ρ rest, Gives ρ (parsePrimary (t :: rest)) (.number t.value) rest) ∧
      (Expr.number t.value).render = t.value ∧
      (Target.isNumeral t.value.toList ↔ ¬ isPadded t.value.toList) ∧
      ∃ n, Decimal.numeral? t.value.toList = some n ∧
        Target.decimalValue? t.value.toList =
          if isPadded t.value.toList then none else some n.value.toRat := by
  simp only [Token.is, Bool.and_eq_true, decide_eq_true_eq] at hnumber
  obtain ⟨hkind, hsort⟩ := hnumber
  obtain ⟨n, hn⟩ := Option.isSome_iff_exists.mp (isNumeral_of_number h ht hkind hsort)
  refine ⟨fun ρ rest => gives_operand hkind (by rw [hsort]; rfl), rfl, ?_⟩
  obtain ⟨point, exponent, htext, hpoint, hdigits, hne, hpower⟩ := Decimal.numeral?_parts hn
  rw [hn, htext]
  by_cases hmarked : point ++ exponent = []
  · -- digits and nothing else
    obtain ⟨rfl, rfl⟩ := List.append_eq_nil_iff.mp hmarked
    have hfraction : n.fraction = [] := by
      rcases hpoint with ⟨-, hfraction⟩ | hpoint
      · exact hfraction
      · cases hpoint
    obtain hzero : 0 = n.power := Option.some.inj hpower
    rw [hfraction, List.append_nil] at hdigits hne
    have hvalue : n.value.toRat = (Decimal.ofDigits n.whole : ℚ) := by
      simp [Decimal.Scaled.toRat, Decimal.Numeral.value, hfraction, ← hzero]
    obtain ⟨hnumeral, hdecimal⟩ := Target.decimalValue?_digits hne hdigits
    rw [List.append_nil, List.append_nil, hnumeral, hdecimal]
    exact ⟨by simp, n, rfl, by rw [hvalue]⟩
  · obtain ⟨hnumeral, hpadded, hvalue⟩ :=
      Target.decimalValue?_marked hpoint hdigits hne hpower hmarked
    rw [hpadded, hvalue]
    exact ⟨iff_of_true hnumeral (by decide), n, rfl, rfl⟩

/-- Zeros in front of a number with a point do no harm. -/
theorem number_operand_literal_iff_paddedFraction :
    tokenize "=1.50E+3*007.5" = .ok [⟨.operand, .number, "1.50E+3"⟩, ⟨.infixOp, .plain, "*"⟩,
        ⟨.operand, .number, "007.5"⟩] ∧
      Target.isNumeral "007.5".toList ∧ Target.decimalValue? "007.5".toList = some (15 / 2) := by
  have hts : tokenize "=1.50E+3*007.5" = .ok [⟨.operand, .number, "1.50E+3"⟩,
      ⟨.infixOp, .plain, "*"⟩, ⟨.operand, .number, "007.5"⟩] :=
    Term.tokenize_written (t := .binary .mul
      (.number ⟨['1'], some ['5', '0'], some (false, ['3'])⟩)
      (.number ⟨['0', '0', '7'], some ['5'], none⟩)) (by decide)
  obtain ⟨-, -, hliteral, n, hn, hvalue⟩ :=
    number_operand_literal_iff hts (t := ⟨.operand, .number, "007.5"⟩) (by simp) rfl
  have hpadded : isPadded "007.5".toList = false := by decide
  obtain rfl : n = ⟨['0', '0', '7'], ['5'], 0⟩ := Option.some.inj (hn.symm.trans (by decide))
  have hrat : Decimal.Scaled.toRat ⟨75, -1⟩ = 15 / 2 := by norm_num [Decimal.Scaled.toRat]
  refine ⟨hts, hliteral.mpr (Bool.eq_false_iff.mp hpadded), ?_⟩
  rw [hvalue, hpadded, ← hrat]
  rfl

/-- A whole number with zeros in front goes into the program, where it is no literal. -/
theorem paddedWhole_not_literal :
    tokenize "=007" = .ok [⟨.operand, .number, "007"⟩] ∧
      (Decimal.numeral? "007".toList).map Decimal.Numeral.value = some ⟨7, 0⟩ ∧
      Target.isNumeral "007".toList = false :=
  ⟨Term.tokenize_written (t := .number ⟨['0', '0', '7'], none, none⟩) (by decide), by decide⟩

end Formula

end ReportCompiler
