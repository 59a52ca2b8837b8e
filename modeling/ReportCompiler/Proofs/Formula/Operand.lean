import ReportCompiler.Proofs.Formula.Term

/-!
# Operands as they are written

An operand is sorted by its text alone: by its first character, by two words, and by whether it can
be read as a number.  Here the written operands of trees are seen to be of the sort they should be,
and a text that went through the doubling of its quotes is seen to come out again.

## Main results

* `operandSubkind_number`, `operandSubkind_text`, `operandSubkind_bool`, `operandSubkind_reference`
  - written operands are of their own sort.
* `textLiteral_enclosed` - a text operand becomes the literal of its text.
-/

namespace ReportCompiler.Formula

/-! ### Texts -/

@[simp] theorem doubled_nil (q : Char) : doubled q [] = [] := rfl

theorem doubled_cons_self (q : Char) (cs : List Char) :
    doubled q (q :: cs) = q :: q :: doubled q cs := by
  simp [doubled]

theorem doubled_cons_of_ne {q c : Char} (h : c ≠ q) (cs : List Char) :
    doubled q (c :: cs) = c :: doubled q cs := by
  simp [doubled, h]

theorem doubled_eq_self {q : Char} {cs : List Char} (h : q ∉ cs) : doubled q cs = cs := by
  induction cs with
  | nil => rfl
  | cons c cs ih =>
    rw [List.mem_cons, not_or] at h
    rw [doubled_cons_of_ne (Ne.symm h.1), ih h.2]

theorem mem_doubled {q c : Char} {cs : List Char} : c ∈ doubled q cs ↔ c ∈ cs := by
  simp only [doubled, List.mem_flatMap]
  constructor
  · rintro ⟨d, hd, hc⟩
    split at hc
    case isTrue hdq =>
      obtain rfl : c = q := by simpa using hc
      rwa [← hdq]
    case isFalse =>
      obtain rfl : c = d := by simpa using hc
      exact hd
  · intro hc
    refine ⟨c, hc, ?_⟩
    split
    case isTrue hcq => simp [hcq]
    case isFalse => simp

theorem undoubleQuotes_doubled (cs : List Char) : undoubleQuotes (doubled '"' cs) = cs := by
  induction cs with
  | nil => rfl
  | cons c cs ih =>
    by_cases hc : c = '"'
    · rw [hc, doubled_cons_self, undoubleQuotes, ih]
    · rw [doubled_cons_of_ne hc, undoubleQuotes, ih]
      rintro rest rfl
      exact absurd rfl hc

theorem insideQuotes_enclosed (cs : List Char) :
    insideQuotes (enclosed '"' cs) = doubled '"' cs := by
  simp [enclosed, insideQuotes]

/-- A text operand becomes the literal of its text. -/
theorem textLiteral_enclosed (s : String) :
    textLiteral (String.ofList (enclosed '"' s.toList)) = literalOf s := by
  have hany : (doubled '"' s.toList).any needsRequoting = s.toList.any needsRequoting := by
    rw [Bool.eq_iff_iff, List.any_eq_true, List.any_eq_true]
    simp only [mem_doubled]
  have hplain (h : ¬ s.toList.any needsRequoting) : doubled '"' s.toList = s.toList :=
    doubled_eq_self fun hmem => h (List.any_eq_true.mpr ⟨'"', hmem, rfl⟩)
  unfold textLiteral literalOf
  simp only [String.toList_ofList, insideQuotes_enclosed, hany, undoubleQuotes_doubled]
  split
  case isTrue => rfl
  case isFalse h => rw [hplain h]

/-! ### Numbers -/

theorem takeWhile_digits {digits rest : List Char} (h : ∀ c ∈ digits, c.isDigit)
    (hrest : ∀ c ∈ rest.head?, c.isDigit = false) :
    (digits ++ rest).takeWhile Char.isDigit = digits ∧
      (digits ++ rest).dropWhile Char.isDigit = rest := by
  rw [List.takeWhile_append_of_pos h, List.dropWhile_append_of_pos h]
  cases rest with
  | nil => simp
  | cons c tail =>
    have hc := hrest c rfl
    simp [hc]

/-- What stands behind the digits in front of the point begins with none. -/
theorem not_isDigit_behind (fraction : Option (List Char)) (exponent : Option (Bool × List Char)) :
    ∀ c ∈ (fractionText fraction ++ exponentText exponent).head?, c.isDigit = false := by
  intro c hc
  cases fraction with
  | some digits =>
    obtain rfl := Option.some.inj hc
    rfl
  | none =>
    cases exponent with
    | none => cases hc
    | some p =>
      obtain rfl := Option.some.inj hc
      rfl

theorem splitFraction_text {fraction : Option (List Char)} {exponent : Option (Bool × List Char)}
    (h : ∀ c ∈ fraction.getD [], c.isDigit) :
    Decimal.splitFraction (fractionText fraction ++ exponentText exponent) =
      (fraction.getD [], exponentText exponent) := by
  cases fraction with
  | none => cases exponent <;> rfl
  | some digits =>
    obtain ⟨htake, hdrop⟩ := takeWhile_digits h (not_isDigit_behind none exponent)
    exact Prod.ext htake hdrop

theorem isSome_power?_text {exponent : Option (Bool × List Char)}
    (h : exponent.all (areDigits ·.2)) : (Decimal.power? (exponentText exponent)).isSome := by
  cases exponent with
  | none => rfl
  | some p =>
    obtain ⟨negative, digits⟩ := p
    have hdigits : Decimal.exponentDigits? digits = some (Decimal.ofDigits digits) := by
      rw [Option.all_some, areDigits, Bool.and_comm] at h
      exact if_pos h
    cases negative <;> simp [exponentText, exponentSign, Decimal.power?, Decimal.splitSign, hdigits]

namespace NumberText

variable {n : NumberText}

theorem whole_digits (h : n.wellFormed) : ∀ c ∈ n.whole, c.isDigit := by
  simp only [wellFormed, Bool.and_eq_true, List.all_eq_true] at h
  exact h.1.1.1.1

theorem fraction_digits (h : n.wellFormed) : ∀ c ∈ n.fraction.getD [], c.isDigit := by
  simp only [wellFormed, Bool.and_eq_true, List.all_eq_true] at h
  exact h.1.1.1.2

theorem some_digits (h : n.wellFormed) :
    (n.whole.isEmpty && (n.fraction.getD []).isEmpty) = false := by
  simp only [wellFormed, Bool.and_eq_true (_ && _), Bool.not_eq_true'] at h
  exact h.1.1.2

theorem exponent_digits (h : n.wellFormed) : n.exponent.all (areDigits ·.2) := by
  simp only [wellFormed, Bool.and_eq_true] at h
  exact h.1.2

theorem mantissa (h : n.wellFormed) (hexp : n.exponent.isNone = false) : n.isMantissa := by
  simp only [wellFormed, Bool.and_eq_true, hexp, Bool.false_or] at h
  exact h.2

theorem isNumeral_text (h : n.wellFormed) : Decimal.isNumeral n.text := by
  obtain ⟨htake, hdrop⟩ :=
    takeWhile_digits (whole_digits h) (not_isDigit_behind n.fraction n.exponent)
  rw [text, List.append_assoc, Decimal.isNumeral, Decimal.numeral?]
  simp only [htake, hdrop, splitFraction_text (fraction_digits h), some_digits h]
  rw [if_neg (by simp), Option.isSome_map]
  exact isSome_power?_text (exponent_digits h)

/-- A number begins with a digit or with a point. -/
theorem exists_beginning (h : n.wellFormed) :
    ∃ c rest, n.text = c :: rest ∧ (c.isDigit || c = '.') := by
  have hwhole := whole_digits h
  have hsome := some_digits h
  obtain ⟨whole, fraction, exponent⟩ := n
  cases whole with
  | cons c rest => exact ⟨c, _, rfl, by simp [hwhole]⟩
  | nil =>
    cases fraction with
    | none => simp at hsome
    | some digits => exact ⟨'.', _, rfl, rfl⟩

end NumberText

/-! ### References -/

/-- A reference may begin with the character. -/
def beginsReference (c : Char) : Bool :=
  c = '\'' || c = '$' || isNameStart c

theorem isNameStart_of_isAlpha {c : Char} (h : c.isAlpha) : isNameStart c := by
  simp [isNameStart, Text.isAlphabetic, h]

theorem not_isDigit_of_beginsReference {c : Char} (h : beginsReference c) : c.isDigit = false := by
  rw [Bool.eq_false_iff]
  intro hdigit
  have hle := Text.toNat_le_of_isDigit hdigit
  simp only [beginsReference, isNameStart, Text.isAlphabetic, Bool.or_eq_true, Bool.and_eq_true,
    decide_eq_true_eq] at h
  -- the two marks are no digits; letters are above the digits, and so is what is not ASCII
  rcases h with (rfl | rfl) | (((halpha | hwide) | rfl) | rfl)
  · exact absurd hdigit (by decide)
  · exact absurd hdigit (by decide)
  · have hge := Text.le_toNat_of_isAlpha halpha
    omega
  · omega
  · exact absurd hle (by decide)
  · exact absurd hle (by decide)

namespace CoordinateText

variable {c : CoordinateText}

theorem exists_beginning (h : c.wellFormed) :
    ∃ d rest, c.text = d :: rest ∧ beginsReference d := by
  obtain ⟨fixedColumn, column, fixedRow, row⟩ := c
  simp only [wellFormed, Bool.and_eq_true, List.all_eq_true] at h
  cases fixedColumn with
  | true => exact ⟨'$', _, rfl, rfl⟩
  | false =>
    cases column with
    | nil => simp at h
    | cons d rest =>
      refine ⟨d, _, rfl, ?_⟩
      simp [beginsReference, isNameStart_of_isAlpha (h.1.1 d (by simp))]

theorem exists_digit (h : c.wellFormed) : ∃ d ∈ c.text, d.isDigit := by
  simp only [wellFormed, areDigits, Bool.and_eq_true, List.all_eq_true] at h
  obtain ⟨d, rest, hrow⟩ := List.exists_cons_of_ne_nil (l := c.row) (by simpa using h.2.2)
  have hd : d ∈ c.row := by simp [hrow]
  exact ⟨d, by simp [text, hd], h.2.1 d hd⟩

end CoordinateText

namespace ReferenceText

variable {r : ReferenceText}

theorem exists_beginning (h : r.wellFormed) :
    ∃ c rest, r.text = c :: rest ∧ beginsReference c := by
  cases r with
  | cell sheet c =>
    cases sheet with
    | some title => exact ⟨'\'', _, rfl, rfl⟩
    | none => exact CoordinateText.exists_beginning h
  | range sheet first last =>
    cases sheet with
    | some title => exact ⟨'\'', _, rfl, rfl⟩
    | none =>
      simp only [wellFormed, Bool.and_eq_true] at h
      obtain ⟨c, rest, heq, hc⟩ := CoordinateText.exists_beginning h.1
      exact ⟨c, rest ++ ':' :: last.text, by simp [text, qualifier, heq], hc⟩
  | name n =>
    simp only [wellFormed, isDefinable, Bool.and_eq_true] at h
    cases hcs : n.toList with
    | nil => simp [hcs] at h
    | cons c rest =>
      have hstart : isNameStart c := by simpa [hcs] using h.1.1.1
      exact ⟨c, rest, hcs, by simp [beginsReference, hstart]⟩

/-- A reference is no truth value. -/
theorem text_ne_bool (h : r.wellFormed) (b : Bool) : r.text ≠ boolText b := by
  intro heq
  -- coordinates have digits, and the words for truth values have none
  have hplain : (boolText b).all (!Char.isDigit ·) := by
    cases b <;> decide
  cases r with
  | cell sheet c =>
    obtain ⟨d, hd, hdigit⟩ := CoordinateText.exists_digit h
    have hmem : d ∈ boolText b := by
      rw [← heq]
      simp [text, hd]
    simpa [hdigit] using List.all_eq_true.mp hplain d hmem
  | range sheet first last =>
    simp only [wellFormed, Bool.and_eq_true] at h
    obtain ⟨d, hd, hdigit⟩ := CoordinateText.exists_digit h.1
    have hmem : d ∈ boolText b := by
      rw [← heq]
      simp [text, hd]
    simpa [hdigit] using List.all_eq_true.mp hplain d hmem
  | name n =>
    simp only [wellFormed, isDefinable, Bool.and_eq_true, bne_iff_ne] at h
    cases b with
    | true => exact h.1.2 (String.toList_inj.mp heq)
    | false => exact h.2 (String.toList_inj.mp heq)

end ReferenceText

/-! ### Sorts of operands -/

/-- A text that begins neither like a text nor like an error value, and is no truth value, is a
number or a reference. -/
theorem operandSubkind_cons {c : Char} {rest : List Char} (hquote : c ≠ '"') (hhash : c ≠ '#')
    (hbool : ∀ b, c :: rest ≠ boolText b) :
    Token.operandSubkind (String.ofList (c :: rest)) =
      if Token.beginsLikeNumber (c :: rest) && Decimal.isNumeral (c :: rest) then .number
      else .range := by
  have htrue : String.ofList (c :: rest) ≠ "TRUE" := by
    intro h
    exact hbool true (by rw [← String.toList_ofList (l := c :: rest), h]; rfl)
  have hfalse : String.ofList (c :: rest) ≠ "FALSE" := by
    intro h
    exact hbool false (by rw [← String.toList_ofList (l := c :: rest), h]; rfl)
  unfold Token.operandSubkind
  simp only [String.toList_ofList, htrue, hfalse, decide_false, Bool.or_self]
  split
  case h_1 heq => exact absurd (List.cons.inj heq).1 hquote
  case h_2 heq => exact absurd (List.cons.inj heq).1 hhash
  case h_3 => rfl

theorem operandSubkind_number {n : NumberText} (h : n.wellFormed) :
    Token.operandSubkind (String.ofList n.text) = .number := by
  have hnumeral := n.isNumeral_text h
  obtain ⟨c, rest, heq, hc⟩ := n.exists_beginning h
  have hbool (b : Bool) : c :: rest ≠ boolText b := by
    intro hb
    have hhead : c ∈ (boolText b).head? := by rw [← hb]; rfl
    cases b <;>
      · obtain rfl := Option.some.inj hhead
        revert hc
        decide
  rw [heq, operandSubkind_cons _ _ hbool, Token.beginsLikeNumber, hc, ← heq, hnumeral]
  · rfl
  · rintro rfl
    revert hc
    decide
  · rintro rfl
    revert hc
    decide

theorem operandSubkind_text (s : String) :
    Token.operandSubkind (String.ofList (enclosed '"' s.toList)) = .text := by
  simp [Token.operandSubkind, enclosed]

theorem operandSubkind_bool (b : Bool) :
    Token.operandSubkind (String.ofList (boolText b)) = .logical := by
  cases b <;> decide

theorem operandSubkind_reference {r : ReferenceText} (h : r.wellFormed) :
    Token.operandSubkind (String.ofList r.text) = .range := by
  have hbool := r.text_ne_bool h
  obtain ⟨c, rest, heq, hc⟩ := r.exists_beginning h
  rw [heq] at hbool ⊢
  have hdigit := not_isDigit_of_beginsReference hc
  have hpoint : c ≠ '.' := by
    rintro rfl
    revert hc
    decide
  rw [operandSubkind_cons _ _ hbool, Token.beginsLikeNumber, hdigit]
  · simp [hpoint]
  · rintro rfl
    revert hc
    decide
  · rintro rfl
    revert hc
    decide

end ReportCompiler.Formula
