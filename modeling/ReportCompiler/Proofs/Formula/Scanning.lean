import ReportCompiler.Formula.Scanner
import ReportCompiler.Proofs.Formula.Operand

/-!
# Written formulas split into their tokens

The scanner goes over the written form of a tree and adds its tokens to those that it has, whatever
stood in front and whatever follows, as long as nothing in front is an operand and what follows
ends one.  Which of a plus or minus is a sign and which an operator is told by what stands in front:
in front of a tree nothing makes it an operator, and behind a tree the last token does.

## Main definitions

* `isPlain` - the characters that only join the operand.
* `Ends` - a text that ends the operand in front of it.
* `Scans` - a text that falls into given tokens.

## Main results

* `Scanner.scan_plain`, `Scanner.scan_flush` - operands are gathered and completed.
* `Term.scans_written` - **the written form of a tree falls into its tokens.**
* `Term.tokenize_written` - the same for a whole formula.
-/

namespace ReportCompiler.Formula

/-! ### Characters -/

/-- The characters that do more than join the operand. -/
def specials : List Char :=
  ['"', '\'', '[', '#', ' ', '\n', '+', '-', '*', '/', '^', '&', '=', '>', '<', '%', '{', '(', ')',
   '}', ';', ',']

/-- The character only joins the operand. -/
def isPlain (c : Char) : Bool :=
  !specials.contains c

/-- The text is empty or begins with a character that ends the operand in front of it. -/
def Ends (cs : List Char) : Prop :=
  ∀ c ∈ cs.head?, isTerminator c

theorem isPlain_of_isNameChar {c : Char} (h : isNameChar c) : isPlain c := by
  have hspecial : specials.all (!isNameChar ·) := by decide
  rw [isPlain, Bool.not_eq_true', Bool.eq_false_iff]
  intro hmem
  have hnot := List.all_eq_true.mp hspecial c (List.contains_iff_mem.mp hmem)
  rw [h] at hnot
  cases hnot

theorem isPlain_of_isAlpha {c : Char} (h : c.isAlpha) : isPlain c :=
  isPlain_of_isNameChar (by simp [isNameChar, Text.isAlphanumeric, Text.isAlphabetic, h])

theorem isPlain_of_isDigit {c : Char} (h : c.isDigit) : isPlain c :=
  isPlain_of_isNameChar (by simp [isNameChar, Text.isAlphanumeric, Text.isNumeric, h])

namespace Scanner

variable {s : Scanner} {c : Char} {cs rest : List Char}

theorem scan_cons (s : Scanner) (c : Char) (rest : List Char) :
    s.scan (c :: rest) = (s.step c rest).bind fun p => p.1.scan p.2 := by
  rw [scan]
  split
  case h_1 hfault =>
    rw [hfault]
    rfl
  case h_2 hok =>
    rw [hok]
    rfl

theorem scan_cons_ok {s' : Scanner} {rest' : List Char} (h : s.step c rest = .ok (s', rest')) :
    s.scan (c :: rest) = s'.scan rest' := by
  rw [scan_cons, h]
  rfl

@[simp] theorem gather_nil (s : Scanner) : s.gather [] = s := by
  simp [gather]

theorem gather_gather (s : Scanner) (as bs : List Char) :
    (s.gather as).gather bs = s.gather (as ++ bs) := by
  simp [gather, String.ofList_append, String.append_assoc]

theorem step_plain (h : isPlain c) : s.step c rest = .ok (s.gather [c], rest) := by
  simp only [isPlain, specials, List.contains_cons, List.contains_nil, Bool.or_false,
    Bool.not_eq_true', Bool.or_eq_false_iff, beq_eq_false_iff_ne] at h
  simp [step, dispatch, isTerminator, isBlankChar, h]

/-- Plain characters are gathered. -/
theorem scan_plain (h : ∀ c ∈ cs, isPlain c) (s : Scanner) :
    s.scan (cs ++ rest) = (s.gather cs).scan rest := by
  induction cs generalizing s with
  | nil => simp
  | cons c cs ih =>
    rw [List.cons_append, scan_cons_ok (step_plain (h c List.mem_cons_self)),
      ih fun d hd => h d (List.mem_cons_of_mem c hd), gather_gather]
    rfl

@[simp] theorem flush_of_empty (h : s.pending = "") : s.flush = s :=
  if_pos h

@[simp] theorem flush_pending (s : Scanner) : s.flush.pending = "" := by
  unfold flush
  split
  case isTrue h => exact h
  case isFalse => rfl

/-- Text that ends the operand completes it, unless the operand waits for an exponent. -/
theorem scan_flush (hrest : Ends rest) (h : awaitsExponent s.pending.toList = false) :
    s.scan rest = s.flush.scan rest := by
  have hflush : s.flush.flush = s.flush := flush_of_empty (flush_pending s)
  have hwait : awaitsExponent s.flush.pending.toList = false := by
    rw [flush_pending]
    rfl
  cases rest with
  | nil => rw [scan, scan, hflush]
  | cons c tail =>
    -- the operand is completed before the character does anything else
    have hc : isTerminator c := hrest c rfl
    have hstep : s.step c tail = s.flush.step c tail := by
      simp only [step, h, hwait, hc, hflush, if_true, Bool.and_false, Bool.false_eq_true, if_false]
    rw [scan_cons, scan_cons, hstep]

/-- A plain operand becomes a token. -/
theorem scan_operand (hne : cs ≠ []) (hcs : awaitsExponent cs = false) (hrest : Ends rest)
    (gs done : List Token) :
    scan (gather ⟨"", gs, done⟩ cs) rest =
      scan ⟨"", gs, .operand (String.ofList cs) :: done⟩ rest := by
  have hpending : (gather ⟨"", gs, done⟩ cs).pending = String.ofList cs := by
    simp [gather]
  rw [scan_flush hrest (by rw [hpending, String.toList_ofList, hcs]), flush, if_neg, hpending]
  · rfl
  · rw [hpending]
    simpa using hne

end Scanner

/-! ### Exponents -/

/-- What waits for an exponent begins with a digit and ends in an `E`. -/
theorem ends_of_awaitsExponent {cs : List Char} (h : awaitsExponent cs) :
    (∃ d ∈ cs.head?, d.isDigit) ∧ ∃ e ∈ cs.getLast?, e = 'E' ∨ e = 'e' := by
  unfold awaitsExponent at h
  split at h
  case h_2 => cases h
  case h_1 e mantissa hcs =>
    obtain rfl : cs = mantissa.reverse ++ [e] := by
      rw [← List.reverse_reverse cs, hcs, List.reverse_cons]
    split at h
    case h_2 => simp at h
    case h_1 d rest hmantissa =>
      simp only [Bool.and_eq_true, Bool.or_eq_true, decide_eq_true_eq] at h
      obtain ⟨hlast, hlead, -⟩ := h
      refine ⟨⟨d, by simp [hmantissa], ?_⟩, ⟨e, by simp, hlast⟩⟩
      simp only [Char.le_def, UInt32.le_iff_toNat_le] at hlead
      simp only [Char.isDigit, Bool.and_eq_true, decide_eq_true_eq, ge_iff_le,
        UInt32.le_iff_toNat_le]
      have hzero : '0'.val.toNat = 48 := rfl
      have hone : '1'.val.toNat = 49 := rfl
      omega

namespace NumberText

variable {n : NumberText}

/-- The number up to its exponent has digits and points only. -/
theorem mem_mantissa (h : n.wellFormed) {c : Char}
    (hc : c ∈ n.whole ++ fractionText n.fraction) : c.isDigit ∨ c = '.' := by
  have hwhole := n.whole_digits h
  have hfraction := n.fraction_digits h
  obtain ⟨whole, fraction, exponent⟩ := n
  rcases List.mem_append.mp hc with hc | hc
  · exact .inl (hwhole c hc)
  · cases fraction with
    | none => cases hc
    | some digits =>
      rcases List.mem_cons.mp hc with rfl | hc
      · exact .inr rfl
      · exact .inl (hfraction c hc)

theorem isPlain_mantissa (h : n.wellFormed) :
    ∀ c ∈ n.whole ++ fractionText n.fraction, isPlain c := by
  intro c hc
  rcases mem_mantissa h hc with hdigit | rfl
  · exact isPlain_of_isDigit hdigit
  · rfl

theorem awaitsExponent_mantissa (h : n.wellFormed) (hm : n.isMantissa) :
    awaitsExponent (n.whole ++ fractionText n.fraction ++ ['E']) := by
  have hwhole := n.whole_digits h
  have hfraction := n.fraction_digits h
  obtain ⟨whole, fraction, exponent⟩ := n
  simp only [isMantissa, Bool.and_eq_true] at hm
  obtain ⟨hsome, hlead⟩ := hm
  split at hlead
  case h_2 => cases hlead
  case h_1 lead =>
    have hnine : lead ≤ '9' := by
      have hdigit := hwhole lead (by simp)
      simp only [Char.isDigit, Bool.and_eq_true, decide_eq_true_eq] at hdigit
      exact hdigit.2
    have hone : '1' ≤ lead := by simpa using hlead
    cases fraction with
    | none => simp [awaitsExponent, fractionText, hone, hnine]
    | some digits =>
      have hne : digits ≠ [] := by simpa using hsome
      have hdigits : ∀ c ∈ digits, c.isDigit := hfraction
      simpa [awaitsExponent, fractionText, hone, hnine, hne] using hdigits

theorem text_of_exponent {negative : Bool} {digits : List Char}
    (h : n.exponent = some (negative, digits)) :
    n.text = n.whole ++ fractionText n.fraction ++ ['E'] ++ [exponentSign negative] ++ digits := by
  simp [text, h, exponentText]

/-- A number ends in a digit or in a point, so it waits for no exponent. -/
theorem awaitsExponent_text (h : n.wellFormed) : awaitsExponent n.text = false := by
  rw [Bool.eq_false_iff]
  intro hwaits
  obtain ⟨-, e, he, hE⟩ := ends_of_awaitsExponent hwaits
  have hlast : e.isDigit ∨ e = '.' := by
    have hexp := n.exponent_digits h
    cases hn : n.exponent with
    | none =>
      -- without exponent every character is a digit or a point
      refine mem_mantissa h (List.mem_of_mem_getLast? ?_)
      simpa [text, hn, exponentText] using he
    | some p =>
      simp only [hn, Option.all_some, areDigits, Bool.and_eq_true, List.all_eq_true] at hexp
      have hne : p.2 ≠ [] := by simpa using hexp.2
      rw [text_of_exponent hn, List.getLast?_append, List.getLast?_eq_some_getLast hne,
        Option.some_or] at he
      obtain rfl := Option.some.inj he
      exact .inl (hexp.1 _ (List.getLast_mem hne))
  rcases hE with rfl | rfl <;> revert hlast <;> decide

end NumberText

namespace Scanner

variable {s : Scanner} {rest : List Char} {gs done : List Token}

/-! ### Operands -/

/-- A sign behind a mantissa that waits for its exponent joins the number. -/
theorem scan_exponentSign (h : awaitsExponent s.pending.toList) (negative : Bool) :
    s.scan (exponentSign negative :: rest) = (s.gather [exponentSign negative]).scan rest := by
  refine scan_cons_ok ?_
  have hsign : (exponentSign negative = '+' || exponentSign negative = '-') := by
    cases negative <;> rfl
  rw [step, hsign, h]
  rfl

theorem scan_number {n : NumberText} (h : n.wellFormed) (hrest : Ends rest) :
    scan ⟨"", gs, done⟩ (n.text ++ rest) =
      scan ⟨"", gs, .operand (String.ofList n.text) :: done⟩ rest := by
  have hgather : scan ⟨"", gs, done⟩ (n.text ++ rest) =
      scan (gather ⟨"", gs, done⟩ n.text) rest := by
    cases hn : n.exponent with
    | none =>
      have htext : n.text = n.whole ++ fractionText n.fraction := by
        simp [NumberText.text, hn, exponentText]
      rw [htext, scan_plain (n.isPlain_mantissa h)]
    | some p =>
      -- the mantissa up to its `E`, then the sign, then the digits of the exponent
      obtain ⟨negative, digits⟩ := p
      have hplain : ∀ c ∈ n.whole ++ fractionText n.fraction ++ ['E'], isPlain c := by
        intro c hc
        rcases List.mem_append.mp hc with hc | hc
        · exact n.isPlain_mantissa h c hc
        · obtain rfl := List.mem_singleton.mp hc
          rfl
      have hdigits : ∀ c ∈ digits, isPlain c := by
        have hexp := n.exponent_digits h
        simp only [hn, Option.all_some, areDigits, Bool.and_eq_true, List.all_eq_true] at hexp
        exact fun c hc => isPlain_of_isDigit (hexp.1 c hc)
      have hwaits := n.awaitsExponent_mantissa h (n.mantissa h (by simp [hn]))
      rw [NumberText.text_of_exponent hn, List.append_assoc, List.append_assoc _ [_],
        scan_plain hplain, List.singleton_append,
        scan_exponentSign (by simpa [gather] using hwaits), scan_plain hdigits, gather_gather,
        gather_gather, ← List.append_assoc]
  obtain ⟨c, tail, htext, -⟩ := n.exists_beginning h
  rw [hgather, scan_operand (by simp [htext]) (n.awaitsExponent_text h) hrest]

theorem splitQuoted_doubled {q : Char} (hrest : rest.head? ≠ some q) (cs : List Char) :
    splitQuoted q (doubled q cs ++ q :: rest) = some (doubled q cs ++ [q], rest) := by
  induction cs with
  | nil =>
    cases rest with
    | nil => simp [splitQuoted]
    | cons d tail =>
      have hd : d ≠ q := by simpa using hrest
      simp [splitQuoted, hd]
  | cons c cs ih =>
    by_cases hc : c = q
    · rw [hc, doubled_cons_self]
      simp [splitQuoted, ih, consFirst]
    · rw [doubled_cons_of_ne hc, List.cons_append, splitQuoted.eq_def]
      simp [hc, ih, consFirst]

theorem enclosed_append (q : Char) (cs rest : List Char) :
    enclosed q cs ++ rest = q :: (doubled q cs ++ q :: rest) := by
  simp [enclosed]

theorem scan_text (hrest : Ends rest) (cs : List Char) :
    scan ⟨"", gs, done⟩ (enclosed '"' cs ++ rest) =
      scan ⟨"", gs, .operand (String.ofList (enclosed '"' cs)) :: done⟩ rest := by
  have hhead : rest.head? ≠ some '"' := by
    intro h
    have hterminator := hrest '"' h
    revert hterminator
    decide
  have hstep : step ⟨"", gs, done⟩ '"' (doubled '"' cs ++ '"' :: rest) =
      .ok (⟨"", gs, .operand (String.ofList (enclosed '"' cs)) :: done⟩, rest) := by
    simp [step, dispatch, isTerminator, stepQuote, splitQuoted_doubled hhead, emit, enclosed]
  rw [enclosed_append, scan_cons_ok hstep]

/-- A sheet in front of a reference joins it, whatever its title holds. -/
theorem scan_qualifier (s : Scanner) (sheet : Option String) :
    s.scan (qualifier sheet ++ rest) = (s.gather (qualifier sheet)).scan rest := by
  cases sheet with
  | none => rw [qualifier, List.nil_append, gather_nil]
  | some title =>
    have hhead : ('!' :: rest).head? ≠ some '\'' := by simp
    have hstep : s.step '\'' (doubled '\'' title.toList ++ '\'' :: '!' :: rest) =
        .ok (s.gather (enclosed '\'' title.toList), '!' :: rest) := by
      simp [step, dispatch, isTerminator, stepQuote, splitQuoted_doubled hhead, enclosed]
    rw [qualifier, List.append_assoc, enclosed_append, List.singleton_append, scan_cons_ok hstep,
      scan_cons_ok (step_plain rfl), gather_gather]

end Scanner

theorem CoordinateText.isPlain_text {c : CoordinateText} (h : c.wellFormed) :
    ∀ d ∈ c.text, isPlain d := by
  simp only [wellFormed, areDigits, Bool.and_eq_true, List.all_eq_true] at h
  have hdollar (fixed : Bool) : ∀ d ∈ dollar fixed, isPlain d := by
    cases fixed <;> exact List.all_eq_true.mp (by decide)
  intro d hd
  simp only [text, List.mem_append] at hd
  rcases hd with ((hd | hd) | hd) | hd
  · exact hdollar _ d hd
  · exact isPlain_of_isAlpha (h.1.1 d hd)
  · exact hdollar _ d hd
  · exact isPlain_of_isDigit (h.2.1 d hd)

/-- A reference is plain but for the sheet in front of it. -/
theorem ReferenceText.exists_plain {r : ReferenceText} (h : r.wellFormed) :
    ∃ sheet body, r.text = qualifier sheet ++ body ∧ ∀ c ∈ body, isPlain c := by
  cases r with
  | cell sheet c => exact ⟨sheet, c.text, rfl, CoordinateText.isPlain_text h⟩
  | range sheet first last =>
    simp only [wellFormed, Bool.and_eq_true] at h
    refine ⟨sheet, first.text ++ ':' :: last.text, List.append_assoc _ _ _, ?_⟩
    intro c hc
    rcases List.mem_append.mp hc with hc | hc
    · exact CoordinateText.isPlain_text h.1 c hc
    · rcases List.mem_cons.mp hc with rfl | hc
      · rfl
      · exact CoordinateText.isPlain_text h.2 c hc
  | name n =>
    simp only [wellFormed, isDefinable, Bool.and_eq_true, List.all_eq_true] at h
    exact ⟨none, n.toList, rfl, fun c hc => isPlain_of_isNameChar (h.1.1.2 c hc)⟩

namespace Scanner

variable {s : Scanner} {c : Char} {rest : List Char} {gs done : List Token}

theorem scan_reference {r : ReferenceText} (h : r.wellFormed) (hrest : Ends rest) :
    scan ⟨"", gs, done⟩ (r.text ++ rest) =
      scan ⟨"", gs, .operand (String.ofList r.text) :: done⟩ rest := by
  obtain ⟨c, tail, hhead, hc⟩ := r.exists_beginning h
  -- a reference begins with no digit, so a sign behind it is never one of an exponent
  have hwaits : awaitsExponent r.text = false := by
    rw [Bool.eq_false_iff]
    intro hwaits
    obtain ⟨⟨d, hd, hdigit⟩, -⟩ := ends_of_awaitsExponent hwaits
    rw [hhead] at hd
    obtain rfl := Option.some.inj hd
    rw [not_isDigit_of_beginsReference hc] at hdigit
    cases hdigit
  obtain ⟨sheet, body, htext, hplain⟩ := r.exists_plain h
  have hgather : scan ⟨"", gs, done⟩ (r.text ++ rest) =
      scan (gather ⟨"", gs, done⟩ r.text) rest := by
    rw [htext, List.append_assoc, scan_qualifier, scan_plain hplain, gather_gather]
  rw [hgather, scan_operand (by simp [hhead]) hwaits hrest]

theorem scan_bool (b : Bool) (hrest : Ends rest) :
    scan ⟨"", gs, done⟩ (boolText b ++ rest) =
      scan ⟨"", gs, .operand (String.ofList (boolText b)) :: done⟩ rest := by
  have hplain : ∀ c ∈ boolText b, isPlain c := by
    cases b <;> exact List.all_eq_true.mp (by decide)
  have hwaits : boolText b ≠ [] ∧ awaitsExponent (boolText b) = false := by
    cases b <;> decide
  rw [scan_plain hplain, scan_operand hwaits.1 hwaits.2 hrest]

/-! ### Operators -/

theorem signIsInfix_cons {t : Token} (ht : t.kind ≠ .whitespace) (p : String) :
    signIsInfix ⟨p, gs, t :: done⟩ =
      (t.subkind = .closer || t.kind = .postfixOp || t.kind = .operand) := by
  simp [signIsInfix, lastSolid?, ht]

theorem signIsInfix_operand (s : String) : signIsInfix ⟨"", gs, .operand s :: done⟩ = true := by
  rw [signIsInfix_cons (by simp)]
  simp

theorem step_operator
    (hc : c ∈ ['+', '-', '*', '/', '^', '&', '=', '>', '<', '%']) (hs : s.pending = "") :
    s.step c rest = .ok (s.stepOperator c rest) := by
  have hwaits : awaitsExponent [] = false := rfl
  simp only [List.mem_cons, List.not_mem_nil, or_false] at hc
  rcases hc with rfl | rfl | rfl | rfl | rfl | rfl | rfl | rfl | rfl | rfl
  all_goals simp [step, dispatch, isTerminator, isBlankChar, hwaits, hs]

/-- An operator of one character that does not begin one of two. -/
theorem scan_operator (hc : c ∈ ['+', '-', '*', '/', '^', '&', '=', '>', '<', '%'])
    (hpair : ∀ d ∈ rest.head?, isPairOperator c d = false) :
    scan ⟨"", gs, done⟩ (c :: rest) =
      scan (emit ⟨"", gs, done⟩ (operatorToken ⟨"", gs, done⟩ c)) rest := by
  have hsingle : stepOperator ⟨"", gs, done⟩ c rest =
      (emit ⟨"", gs, done⟩ (operatorToken ⟨"", gs, done⟩ c), rest) := by
    cases rest with
    | nil => rfl
    | cons d tail => simp [stepOperator, hpair d rfl]
  exact scan_cons_ok (by rw [step_operator hc rfl, hsingle])

theorem scan_percent :
    scan ⟨"", gs, done⟩ ('%' :: rest) =
      scan ⟨"", gs, ⟨.postfixOp, .plain, "%"⟩ :: done⟩ rest :=
  scan_operator (by decide) fun _ _ => rfl

/-- A plus or minus with no operand in front is a sign. -/
theorem scan_sign (op : UnaryOp) (h : signIsInfix ⟨"", gs, done⟩ = false) :
    scan ⟨"", gs, done⟩ (op.symbol.toList ++ rest) =
      scan ⟨"", gs, ⟨.prefixOp, .plain, op.symbol⟩ :: done⟩ rest := by
  cases op
  all_goals
    refine (scan_operator (by decide) fun _ _ => rfl).trans ?_
    rw [operatorToken, h]
    rfl

/-- An operator with an operand in front stands between two, when what follows does not make it
another operator. -/
theorem scan_infix (op : BinaryOp) (h : signIsInfix ⟨"", gs, done⟩ = true)
    (hrest : ∀ c ∈ rest.head?, c ≠ '=' ∧ c ≠ '>') :
    scan ⟨"", gs, done⟩ (op.symbol.toList ++ rest) =
      scan ⟨"", gs, ⟨.infixOp, .plain, op.symbol⟩ :: done⟩ rest := by
  have hpair (c : Char) : ∀ d ∈ rest.head?, isPairOperator c d = false := by
    intro d hd
    obtain ⟨heq, hgt⟩ := hrest d hd
    simp [isPairOperator, heq, hgt]
  cases op
  -- two characters are taken together, and a plus or minus is told from a sign
  case ne | le | ge => exact scan_cons_ok (step_operator (by decide) rfl)
  case add | sub =>
    refine (scan_operator (by decide) (hpair _)).trans ?_
    rw [operatorToken, h]
    rfl
  all_goals exact scan_operator (by decide) (hpair _)

/-! ### Groups -/

theorem scan_paren :
    scan ⟨"", gs, done⟩ ('(' :: rest) =
      scan ⟨"", ⟨.paren, .opener, "("⟩ :: gs, ⟨.paren, .opener, "("⟩ :: done⟩ rest :=
  scan_cons_ok rfl

/-- A name in front of a bracket opens a call. -/
theorem scan_call (f : Function) :
    scan ⟨"", gs, done⟩ (f.name.toList ++ '(' :: rest) =
      scan ⟨"", ⟨.func, .opener, f.name ++ "("⟩ :: gs, ⟨.func, .opener, f.name ++ "("⟩ :: done⟩
        rest := by
  have hplain : ∀ c ∈ f.name.toList, isPlain c := by
    cases f <;> exact List.all_eq_true.mp (by decide)
  have hgather : gather ⟨"", gs, done⟩ f.name.toList = ⟨f.name, gs, done⟩ := by
    simp [gather]
  have hne : f.name ≠ "" := by
    cases f <;> decide
  rw [scan_plain hplain, hgather]
  refine scan_cons_ok ?_
  simp [step, dispatch, isTerminator, isBlankChar, stepOpener, openGroup, hne]

theorem scan_closer {opener : Token} (h : opener.kind ≠ .array) :
    scan ⟨"", opener :: gs, done⟩ (')' :: rest) =
      scan ⟨"", gs, ⟨opener.kind, .closer, ")"⟩ :: done⟩ rest := by
  refine scan_cons_ok ?_
  simp [step, dispatch, isTerminator, isBlankChar, stepCloser, closerOf, h, emit, awaitsExponent]

theorem scan_separator {opener : Token} (h : opener.kind ≠ .paren) :
    scan ⟨"", opener :: gs, done⟩ (',' :: rest) =
      scan ⟨"", opener :: gs, ⟨.sep, .arg, ","⟩ :: done⟩ rest := by
  refine scan_cons_ok ?_
  simp [step, dispatch, isTerminator, isBlankChar, separatorToken, h, emit, awaitsExponent]

end Scanner

/-! ### Texts that fall into tokens -/

/-- With no operand in front and the end of one behind, the text falls into the tokens. -/
def Scans (cs : List Char) (ts : List Token) : Prop :=
  ∀ ⦃gs done rest⦄, Scanner.signIsInfix ⟨"", gs, done⟩ = false → Ends rest →
    Scanner.scan ⟨"", gs, done⟩ (cs ++ rest) = Scanner.scan ⟨"", gs, ts.reverse ++ done⟩ rest

theorem ends_cons {c : Char} (h : isTerminator c) (rest : List Char) : Ends (c :: rest) := by
  intro d hd
  obtain rfl := Option.some.inj hd
  exact h

variable {cs cs' : List Char} {ts ts' : List Token}

theorem Scans.group (h : Scans cs ts) :
    Scans ('(' :: cs ++ [')']) (⟨.paren, .opener, "("⟩ :: ts ++ [⟨.paren, .closer, ")"⟩]) := by
  intro gs done rest _ _
  rw [List.cons_append, List.cons_append, List.append_assoc, List.singleton_append,
    Scanner.scan_paren, h rfl (ends_cons rfl rest), Scanner.scan_closer (by decide)]
  simp

theorem Scans.sign (op : UnaryOp) (h : Scans cs ts) :
    Scans (op.symbol.toList ++ cs) (⟨.prefixOp, .plain, op.symbol⟩ :: ts) := by
  intro gs done rest hsign hrest
  rw [List.append_assoc, Scanner.scan_sign op hsign, h rfl hrest]
  simp

theorem Scans.percent (h : Scans cs ts) :
    Scans (cs ++ ['%']) (ts ++ [⟨.postfixOp, .plain, "%"⟩]) := by
  intro gs done rest hsign _
  rw [List.append_assoc, List.singleton_append, h hsign (ends_cons rfl rest), Scanner.scan_percent]
  simp

theorem ends_symbol (op : BinaryOp) (rest : List Char) : Ends (op.symbol.toList ++ rest) := by
  cases op <;> exact ends_cons rfl _

/-- The operator is one between two operands because the tokens of the left one end as an operand
does. -/
theorem Scans.binary (op : BinaryOp) (h : Scans cs ts) (h' : Scans cs' ts')
    (hlast : ∀ gs done, Scanner.signIsInfix ⟨"", gs, ts.reverse ++ done⟩ = true)
    (hhead : ∃ c rest, cs' = c :: rest ∧ c ≠ '=' ∧ c ≠ '>') :
    Scans (cs ++ op.symbol.toList ++ cs') (ts ++ ⟨.infixOp, .plain, op.symbol⟩ :: ts') := by
  intro gs done rest hsign hrest
  have hnext : ∀ c ∈ (cs' ++ rest).head?, c ≠ '=' ∧ c ≠ '>' := by
    obtain ⟨c, tail, rfl, hc⟩ := hhead
    intro d hd
    obtain rfl := Option.some.inj hd
    exact hc
  rw [List.append_assoc, List.append_assoc, h hsign (ends_symbol op _),
    Scanner.scan_infix op (hlast gs done) hnext, h' rfl hrest]
  simp

namespace Term

/-- Arguments inside a call, which is the innermost group that is open. -/
theorem scan_writtenAll {args : List Term} (h : ∀ t ∈ args, Scans t.written t.tokens)
    {opener : Token} (hopener : opener.kind = .func) {gs done : List Token} {rest : List Char}
    (hsign : Scanner.signIsInfix ⟨"", opener :: gs, done⟩ = false) (hrest : Ends rest) :
    Scanner.scan ⟨"", opener :: gs, done⟩ (writtenAll args ++ rest) =
      Scanner.scan ⟨"", opener :: gs, (tokensAll args).reverse ++ done⟩ rest := by
  induction args generalizing done with
  | nil => rfl
  | cons t more ih =>
    have ht := h t List.mem_cons_self
    cases more with
    | nil => exact ht hsign hrest
    | cons u more =>
      rw [writtenAll, List.append_assoc, List.cons_append, ht hsign (ends_cons rfl _),
        Scanner.scan_separator (by simp [hopener]),
        ih (fun v hv => h v (List.mem_cons_of_mem t hv)) rfl]
      simp [tokensAll]

theorem scans_call (f : Function) {args : List Term} (h : ∀ t ∈ args, Scans t.written t.tokens) :
    Scans (call f args).written (call f args).tokens := by
  intro gs done rest _ _
  have hwritten : (call f args).written ++ rest =
      f.name.toList ++ '(' :: (writtenAll args ++ ')' :: rest) := by
    simp [written]
  rw [hwritten, Scanner.scan_call, scan_writtenAll h rfl rfl (ends_cons rfl rest),
    Scanner.scan_closer (by simp)]
  simp [tokens]

/-! ### All trees -/

/-- No tree begins with a character that goes on with an operator. -/
theorem exists_beginning :
    (t : Term) → t.wellFormed → ∃ c rest, t.written = c :: rest ∧ c ≠ '=' ∧ c ≠ '>'
  | number n, h => by
    obtain ⟨c, rest, heq, hc⟩ := n.exists_beginning h
    refine ⟨c, rest, heq, ?_, ?_⟩ <;> rintro rfl <;> revert hc <;> decide
  | text _, _ => ⟨'"', _, rfl, by decide⟩
  | bool true, _ => ⟨'T', _, rfl, by decide⟩
  | bool false, _ => ⟨'F', _, rfl, by decide⟩
  | reference r, h => by
    obtain ⟨c, rest, heq, hc⟩ := r.exists_beginning h
    refine ⟨c, rest, heq, ?_, ?_⟩ <;> rintro rfl <;> revert hc <;> decide
  | group _, _ => ⟨'(', _, rfl, by decide⟩
  | sign .neg _, _ => ⟨'-', _, rfl, by decide⟩
  | sign .plus _, _ => ⟨'+', _, rfl, by decide⟩
  | percent operand, h => by
    simp only [wellFormed, Bool.and_eq_true] at h
    obtain ⟨c, rest, heq, hc⟩ := exists_beginning operand h.1.1
    exact ⟨c, rest ++ ['%'], by simp [written, heq], hc⟩
  | binary op left right, h => by
    simp only [wellFormed, Bool.and_eq_true] at h
    obtain ⟨c, rest, heq, hc⟩ := exists_beginning left h.1.1.1
    exact ⟨c, rest ++ op.symbol.toList ++ right.written, by simp [written, heq], hc⟩
  | call f args, _ => by
    cases f <;> exact ⟨_, _, rfl, by decide⟩

/-- Behind every tree a plus or minus is an operator. -/
theorem signIsInfix_tokens :
    (t : Term) → (gs done : List Token) →
      Scanner.signIsInfix ⟨"", gs, t.tokens.reverse ++ done⟩ = true
  | number _, _, _ | text _, _, _ | bool _, _, _ | reference _, _, _ =>
    Scanner.signIsInfix_operand _
  | group _, _, _ | percent _, _, _ | call _ _, _, _ => by
    simp [tokens, Scanner.signIsInfix_cons]
  | sign op operand, gs, done => by
    simpa [tokens] using signIsInfix_tokens operand gs (⟨.prefixOp, .plain, op.symbol⟩ :: done)
  | binary op left right, gs, done => by
    simpa [tokens] using signIsInfix_tokens right gs
      (⟨.infixOp, .plain, op.symbol⟩ :: left.tokens.reverse ++ done)

mutual

/-- **The written form of a tree falls into its tokens.** -/
theorem scans_written : (t : Term) → t.wellFormed → Scans t.written t.tokens
  | number _, h => fun _ _ _ _ hrest => Scanner.scan_number h hrest
  | text s, _ => fun _ _ _ _ hrest => Scanner.scan_text hrest s.toList
  | bool b, _ => fun _ _ _ _ hrest => Scanner.scan_bool b hrest
  | reference _, h => fun _ _ _ _ hrest => Scanner.scan_reference h hrest
  | group inner, h => by
    simp only [wellFormed, Bool.and_eq_true] at h
    exact (scans_written inner h.1).group
  | sign op operand, h => by
    simp only [wellFormed, Bool.and_eq_true] at h
    exact (scans_written operand h.1.1).sign op
  | percent operand, h => by
    simp only [wellFormed, Bool.and_eq_true] at h
    exact (scans_written operand h.1.1).percent
  | binary op left right, h => by
    simp only [wellFormed, Bool.and_eq_true] at h
    have hleft := scans_written left h.1.1.1
    have hright := scans_written right h.2.1.1
    exact hleft.binary op hright left.signIsInfix_tokens (right.exists_beginning h.2.1.1)
  | call f args, h => by
    simp only [wellFormed, Bool.and_eq_true] at h
    exact scans_call f (scans_each args h.2)

/-- The written forms of several trees fall into their tokens. -/
theorem scans_each :
    (ts : List Term) → wellFormedAll ts → ∀ t ∈ ts, Scans t.written t.tokens
  | [], _ => by simp
  | t :: rest, h => by
    simp only [wellFormedAll, Bool.and_eq_true] at h
    have hhead := scans_written t h.1
    have htail := scans_each rest h.2
    exact List.forall_mem_cons.mpr ⟨hhead, htail⟩

end

/-- A tree written behind an equals sign is split into its tokens. -/
theorem tokenize_written {t : Term} (h : t.wellFormed) :
    tokenize ("=" ++ String.ofList t.written) = .ok t.tokens := by
  have hend : Ends [] := fun _ hc => nomatch hc
  have hscan : Scanner.start.scan t.written = .ok ⟨"", [], t.tokens.reverse⟩ := by
    have hall := scans_written t h (rfl : Scanner.signIsInfix ⟨"", [], []⟩ = false) hend
    rw [List.append_nil, List.append_nil, Scanner.scan.eq_def _ []] at hall
    exact hall
  have htext : ("=" ++ String.ofList t.written).toList = '=' :: t.written := by
    simp
  rw [tokenize, htext]
  simp only [hscan, List.reverse_reverse]

end Term

end ReportCompiler.Formula
