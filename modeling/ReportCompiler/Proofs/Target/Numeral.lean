/-!
# Number literals of the generated program

The numbers of the program's language, without signs: whole numbers in four radices, numbers with a
point or an exponent, and imaginary ones, all with underscores between digits where the author
liked.  Only two facts about them matter for reading a text: how they begin, and which characters
they are made of.

## Main definitions

* `isNumeral` - the text is a number literal.
* `isNumeralChar` - a character that a number literal can hold.

## Main results

* `isNumeralChar_of_isNumeral` - only few characters occur in numbers.
* `beginsNumber_of_isNumeral` - a number begins with a digit, or with a point and a digit.
* `isNumeral_toDigits` - a natural number written in decimal digits is one.
-/

namespace ReportCompiler.Target

/-- Digits with at most one underscore between two of them. -/
def isDigits (digit : Char → Bool) : List Char → Bool
  | [] => false
  | [c] => digit c
  | c :: '_' :: rest => digit c && isDigits digit rest
  | c :: d :: rest => digit c && isDigits digit (d :: rest)

/-- The text without one `c` that it may begin with. -/
def dropOne (p : Char → Bool) : List Char → List Char
  | [] => []
  | c :: rest => if p c then rest else c :: rest

/-- The digits that a radix letter announces. -/
def radixDigits? (c : Char) : Option (List Char) :=
  if c = 'x' || c = 'X' then some "0123456789abcdefABCDEF".toList
  else if c = 'o' || c = 'O' then some "01234567".toList
  else if c = 'b' || c = 'B' then some "01".toList
  else none

/-- A whole number: in another radix behind its mark, or decimal and without zeros in front, unless
it has no other digit. -/
def isInteger : List Char → Bool
  | '0' :: r :: rest =>
    match radixDigits? r with
    | some digits => isDigits digits.contains (dropOne (· = '_') rest)
    | none => isDigits Char.isDigit ('0' :: r :: rest) && (r :: rest).all ['0', '_'].contains
  | cs => isDigits Char.isDigit cs

/-- The text in front of the first `c` with `p c` and the text behind it. -/
def splitAtFirst (p : Char → Bool) : List Char → Option (List Char × List Char)
  | [] => none
  | c :: rest =>
    if p c then some ([], rest)
    else (splitAtFirst p rest).map fun (before, after) => (c :: before, after)

/-- Digits, or digits with a point in front, between or behind. -/
def isMantissa (cs : List Char) : Bool :=
  match splitAtFirst (· = '.') cs with
  | none => isDigits Char.isDigit cs
  | some (whole, fraction) =>
    (whole.isEmpty || isDigits Char.isDigit whole) &&
      (fraction.isEmpty || isDigits Char.isDigit fraction) && !(whole.isEmpty && fraction.isEmpty)

/-- A number with a point or an exponent. -/
def isFloat (cs : List Char) : Bool :=
  match splitAtFirst (fun c => c = 'e' || c = 'E') cs with
  | none => cs.contains '.' && isMantissa cs
  | some (mantissa, exponent) =>
    isMantissa mantissa && isDigits Char.isDigit (dropOne (fun c => c = '+' || c = '-') exponent)

/-- An imaginary number. -/
def isImaginary (cs : List Char) : Bool :=
  match cs.reverse with
  | j :: rest =>
    (j = 'j' || j = 'J') && (isFloat rest.reverse || isDigits Char.isDigit rest.reverse)
  | [] => false

/-- A number literal, without a sign. -/
def isNumeral (cs : List Char) : Bool :=
  isInteger cs || isFloat cs || isImaginary cs

/-- A character that a number literal can hold. -/
def isNumeralChar (c : Char) : Bool :=
  c.isAlphanum || c = '_' || c = '.' || c = '+' || c = '-'

/-! ### What numbers are made of -/

theorem isDigits_all {digit : Char → Bool} {cs : List Char} (h : isDigits digit cs) :
    ∀ c ∈ cs, digit c ∨ c = '_' := by
  fun_induction isDigits digit cs with
  | case1 => simp
  | case2 c => simpa using Or.inl h
  | case3 c rest ih =>
    have h' : digit c = true ∧ isDigits digit rest = true := by simpa using h
    intro d hd
    rcases List.mem_cons.mp hd with rfl | hd
    · exact Or.inl h'.1
    · rcases List.mem_cons.mp hd with rfl | hd
      · exact Or.inr rfl
      · exact ih h'.2 d hd
  | case4 c d rest _ ih =>
    have h' : digit c = true ∧ isDigits digit (d :: rest) = true := by simpa using h
    intro e he
    rcases List.mem_cons.mp he with rfl | he
    · exact Or.inl h'.1
    · exact ih h'.2 e he

theorem isDigits_head {digit : Char → Bool} {c : Char} {cs : List Char}
    (h : isDigits digit (c :: cs)) : digit c := by
  cases cs with
  | nil => exact h
  | cons d rest =>
    by_cases hd : d = '_'
    · subst hd
      simp only [isDigits, Bool.and_eq_true] at h
      exact h.1
    · simp only [isDigits, Bool.and_eq_true] at h
      exact h.1

theorem splitAtFirst_eq {p : Char → Bool} {cs before after : List Char}
    (h : splitAtFirst p cs = some (before, after)) : ∃ c, p c ∧ cs = before ++ c :: after := by
  induction cs generalizing before with
  | nil => simp [splitAtFirst] at h
  | cons c rest ih =>
    rw [splitAtFirst] at h
    split at h
    case isTrue hc =>
      obtain ⟨rfl, rfl⟩ : before = [] ∧ after = rest := by simpa [eq_comm] using h
      exact ⟨c, hc, rfl⟩
    case isFalse hc =>
      obtain ⟨⟨b, a⟩, hsplit, hba⟩ := Option.map_eq_some_iff.mp h
      obtain ⟨rfl, rfl⟩ : c :: b = before ∧ a = after := by simpa using hba
      obtain ⟨d, hd, rfl⟩ := ih hsplit
      exact ⟨d, hd, rfl⟩

theorem mem_dropOne {p : Char → Bool} {cs : List Char} {c : Char} (h : c ∈ cs) :
    p c ∨ c ∈ dropOne p cs := by
  cases cs with
  | nil => exact absurd h List.not_mem_nil
  | cons d rest =>
    rw [dropOne]
    split
    case isTrue hd =>
      rcases List.mem_cons.mp h with rfl | h
      · exact Or.inl hd
      · exact Or.inr h
    case isFalse => exact Or.inr h

theorem isNumeralChar_of_digit {c : Char} (h : c.isDigit ∨ c = '_') : isNumeralChar c := by
  rcases h with h | rfl
  · simp [isNumeralChar, Char.isAlphanum, h]
  · decide

theorem isNumeralChar_of_isDigits {cs : List Char} (h : isDigits Char.isDigit cs) :
    ∀ c ∈ cs, isNumeralChar c :=
  fun c hc => isNumeralChar_of_digit (isDigits_all h c hc)

theorem isNumeralChar_of_radixDigits? {r : Char} {digits : List Char}
    (h : radixDigits? r = some digits) : ∀ c ∈ r :: digits, isNumeralChar c := by
  unfold radixDigits? at h
  split at h
  case isTrue hr =>
    obtain rfl := Option.some.inj h
    rcases (by simpa using hr : r = 'x' ∨ r = 'X') with rfl | rfl <;>
      exact List.all_eq_true.mp (by decide)
  case isFalse =>
    split at h
    case isTrue hr =>
      obtain rfl := Option.some.inj h
      rcases (by simpa using hr : r = 'o' ∨ r = 'O') with rfl | rfl <;>
        exact List.all_eq_true.mp (by decide)
    case isFalse =>
      split at h
      case isTrue hr =>
        obtain rfl := Option.some.inj h
        rcases (by simpa using hr : r = 'b' ∨ r = 'B') with rfl | rfl <;>
          exact List.all_eq_true.mp (by decide)
      case isFalse => cases h

theorem isNumeralChar_of_isInteger {cs : List Char} (h : isInteger cs) :
    ∀ c ∈ cs, isNumeralChar c := by
  unfold isInteger at h
  split at h
  case h_1 r rest =>
    split at h
    case h_1 digits hr =>
      have hdigits := isNumeralChar_of_radixDigits? hr
      intro c hc
      rcases List.mem_cons.mp hc with rfl | hc
      · decide
      rcases List.mem_cons.mp hc with rfl | hc
      · exact hdigits c List.mem_cons_self
      rcases mem_dropOne (p := (· = '_')) hc with hc | hc
      · obtain rfl : c = '_' := by simpa using hc
        decide
      rcases isDigits_all h c hc with hc | rfl
      · exact hdigits c (List.mem_cons_of_mem r (List.contains_iff_mem.mp hc))
      · decide
    case h_2 =>
      rw [Bool.and_eq_true] at h
      exact isNumeralChar_of_isDigits h.1
  case h_2 => exact isNumeralChar_of_isDigits h

theorem isNumeralChar_of_isMantissa {cs : List Char} (h : isMantissa cs) :
    ∀ c ∈ cs, isNumeralChar c := by
  have key : ∀ part : List Char, part.isEmpty || isDigits Char.isDigit part →
      ∀ c ∈ part, isNumeralChar c := by
    intro part hpart
    rcases Bool.or_eq_true _ _ ▸ hpart with hpart | hpart
    · simp [List.isEmpty_iff.mp hpart]
    · exact isNumeralChar_of_isDigits hpart
  unfold isMantissa at h
  split at h
  case h_1 => exact isNumeralChar_of_isDigits h
  case h_2 whole fraction hsplit =>
    rw [Bool.and_eq_true, Bool.and_eq_true] at h
    obtain ⟨p, hp, rfl⟩ := splitAtFirst_eq hsplit
    obtain rfl : p = '.' := by simpa using hp
    intro c hc
    rcases List.mem_append.mp hc with hc | hc
    · exact key whole h.1.1 c hc
    rcases List.mem_cons.mp hc with rfl | hc
    · decide
    · exact key fraction h.1.2 c hc

theorem isNumeralChar_of_isFloat {cs : List Char} (h : isFloat cs) :
    ∀ c ∈ cs, isNumeralChar c := by
  unfold isFloat at h
  split at h
  case h_1 =>
    rw [Bool.and_eq_true] at h
    exact isNumeralChar_of_isMantissa h.2
  case h_2 mantissa exponent hsplit =>
    rw [Bool.and_eq_true] at h
    obtain ⟨e, he, rfl⟩ := splitAtFirst_eq hsplit
    intro c hc
    rcases List.mem_append.mp hc with hc | hc
    · exact isNumeralChar_of_isMantissa h.1 c hc
    rcases List.mem_cons.mp hc with rfl | hc
    · rcases (by simpa using he : c = 'e' ∨ c = 'E') with rfl | rfl <;> decide
    rcases mem_dropOne (p := fun c => c = '+' || c = '-') hc with hc | hc
    · rcases (by simpa using hc : c = '+' ∨ c = '-') with rfl | rfl <;> decide
    · exact isNumeralChar_of_isDigits h.2 c hc

theorem isImaginary_eq {cs : List Char} (h : isImaginary cs) :
    ∃ front j, cs = front ++ [j] ∧ (j = 'j' ∨ j = 'J') ∧
      (isFloat front ∨ isDigits Char.isDigit front) := by
  unfold isImaginary at h
  split at h
  case h_1 j rest hrev =>
    rw [Bool.and_eq_true, Bool.or_eq_true, Bool.or_eq_true] at h
    exact ⟨rest.reverse, j, by simpa using congrArg List.reverse hrev, by simpa using h.1, h.2⟩
  case h_2 => cases h

/-- Only few characters occur in numbers. -/
theorem isNumeralChar_of_isNumeral {cs : List Char} (h : isNumeral cs) :
    ∀ c ∈ cs, isNumeralChar c := by
  simp only [isNumeral, Bool.or_eq_true] at h
  rcases h with (h | h) | h
  · exact isNumeralChar_of_isInteger h
  · exact isNumeralChar_of_isFloat h
  · obtain ⟨front, j, rfl, hj, hfront⟩ := isImaginary_eq h
    intro c hc
    rcases List.mem_append.mp hc with hc | hc
    · exact hfront.elim (isNumeralChar_of_isFloat · c hc) (isNumeralChar_of_isDigits · c hc)
    · obtain rfl := List.mem_singleton.mp hc
      rcases hj with rfl | rfl <;> decide

/-! ### How numbers begin -/

/-- The text begins with a digit, or with a point and a digit. -/
def BeginsNumber (cs : List Char) : Prop :=
  ∃ c rest, cs = c :: rest ∧ (c.isDigit ∨ c = '.' ∧ rest.head?.any Char.isDigit)

theorem BeginsNumber.append {cs : List Char} (h : BeginsNumber cs) (rest : List Char) :
    BeginsNumber (cs ++ rest) := by
  obtain ⟨c, cs, rfl, hc⟩ := h
  refine ⟨c, cs ++ rest, rfl, hc.imp_right fun hpoint => ⟨hpoint.1, ?_⟩⟩
  cases cs with
  | nil => cases hpoint.2
  | cons d cs => exact hpoint.2

theorem beginsNumber_of_isDigits {cs : List Char} (h : isDigits Char.isDigit cs) :
    BeginsNumber cs := by
  cases cs with
  | nil => exact absurd h (by decide)
  | cons c rest => exact ⟨c, rest, rfl, Or.inl (isDigits_head h)⟩

theorem beginsNumber_of_isMantissa {cs : List Char} (h : isMantissa cs) : BeginsNumber cs := by
  unfold isMantissa at h
  split at h
  case h_1 => exact beginsNumber_of_isDigits h
  case h_2 whole fraction hsplit =>
    rw [Bool.and_eq_true, Bool.and_eq_true, Bool.or_eq_true] at h
    obtain ⟨p, hp, rfl⟩ := splitAtFirst_eq hsplit
    rcases h.1.1 with hwhole | hwhole
    · -- a point that nothing stands in front of has digits behind it
      rw [List.isEmpty_iff.mp hwhole] at h ⊢
      cases fraction with
      | nil => simp at h
      | cons d rest =>
        have hdigits : isDigits Char.isDigit (d :: rest) := by simpa using h
        exact ⟨p, d :: rest, rfl, Or.inr ⟨by simpa using hp, isDigits_head hdigits⟩⟩
    · exact (beginsNumber_of_isDigits hwhole).append _

theorem beginsNumber_of_isFloat {cs : List Char} (h : isFloat cs) : BeginsNumber cs := by
  unfold isFloat at h
  split at h
  case h_1 =>
    rw [Bool.and_eq_true] at h
    exact beginsNumber_of_isMantissa h.2
  case h_2 mantissa exponent hsplit =>
    rw [Bool.and_eq_true] at h
    obtain ⟨e, -, rfl⟩ := splitAtFirst_eq hsplit
    exact (beginsNumber_of_isMantissa h.1).append _

theorem beginsNumber_of_isInteger {cs : List Char} (h : isInteger cs) : BeginsNumber cs := by
  unfold isInteger at h
  split at h
  case h_1 r rest => exact ⟨'0', r :: rest, rfl, Or.inl (by decide)⟩
  case h_2 => exact beginsNumber_of_isDigits h

/-- A number begins with a digit, or with a point and a digit. -/
theorem beginsNumber_of_isNumeral {cs : List Char} (h : isNumeral cs) : BeginsNumber cs := by
  simp only [isNumeral, Bool.or_eq_true] at h
  rcases h with (h | h) | h
  · exact beginsNumber_of_isInteger h
  · exact beginsNumber_of_isFloat h
  · obtain ⟨front, j, rfl, -, hfront⟩ := isImaginary_eq h
    exact (hfront.elim beginsNumber_of_isFloat beginsNumber_of_isDigits).append [j]

/-! ### Natural numbers -/

theorem isDigits_of_forall {cs : List Char} (hne : cs ≠ []) (h : ∀ c ∈ cs, c.isDigit) :
    isDigits Char.isDigit cs := by
  fun_induction isDigits Char.isDigit cs with
  | case1 => exact absurd rfl hne
  | case2 c => exact h c List.mem_cons_self
  | case3 c rest => exact absurd (h '_' (by simp)) (by decide)
  | case4 c d rest _ ih =>
    obtain ⟨hc, hrest⟩ := List.forall_mem_cons.mp h
    simp [hc, ih (List.cons_ne_nil d rest) hrest]

/-- Only zero begins with a zero. -/
theorem head?_toDigits {n : Nat} (h : 0 < n) : (Nat.toDigits 10 n).head? ≠ some '0' := by
  induction n using Nat.strongRecOn with
  | ind n ih =>
    by_cases hlt : n < 10
    · rw [Nat.toDigits_of_lt_base hlt]
      have hall : ∀ n < 10, 0 < n → [n.digitChar].head? ≠ some '0' := by decide
      exact hall n hlt h
    · -- the first digit is that of the number without its last one
      have hfirst := ih (n / 10) (by omega) (by omega)
      rw [Nat.toDigits_of_base_le (by decide) (by omega)]
      cases hdigits : Nat.toDigits 10 (n / 10) with
      | nil => exact absurd hdigits Nat.toDigits_ne_nil
      | cons c cs => rwa [hdigits] at hfirst

theorem isNumeral_toDigits (n : Nat) : isNumeral (Nat.toDigits 10 n) := by
  have hdigits : isDigits Char.isDigit (Nat.toDigits 10 n) :=
    isDigits_of_forall Nat.toDigits_ne_nil fun _ hc =>
      Nat.isDigit_of_mem_toDigits (by decide) (by decide) hc
  have hinteger : isInteger (Nat.toDigits 10 n) := by
    unfold isInteger
    split
    case h_1 r rest heq =>
      have hn : 0 < n := by
        refine Nat.pos_of_ne_zero ?_
        rintro rfl
        cases heq
      exact absurd (by rw [heq]; rfl) (head?_toDigits hn)
    case h_2 => exact hdigits
  simp [isNumeral, hinteger]

end ReportCompiler.Target
