import Mathlib.Tactic.SplitIfs
import ReportCompiler.Proofs.Formula.Scanning
import ReportCompiler.Proofs.Target.Lexeme
import ReportCompiler.Proofs.Text.Controls
import ReportCompiler.Text.Hex

/-!
# What string literals denote

A text reaches the generated program in one of two literals.  Labels and values stand in single
quotes, with escapes.  A text operand of a formula, in which a double quote is written twice, keeps
its double quotes where the program would read it in the same way, and is quoted anew where it would
not.  The reader here goes by the rules of the program's language, and gives the text back from
each.

## Main definitions

* `escaped?` - the character that a backslash and a character behind it stand for.
* `unquote` - the text between the quotes of a literal, read up to the closing quote at the end.
* `denoted?` - the text that a string literal denotes.

## Main results

* `isStringLiteral_of_denoted?` - what denotes a text is a single string literal.
* `denoted?_quoted`, `denoted?_literalOf` - the two literals denote the text they were made for.
* `controlFree_quoted`, `controlFree_textLiteral` - they have no control characters.
* `denoted?_literals` - **a text is denoted by its literals**, from formulas and from elsewhere.
-/

namespace ReportCompiler.Target

open Formula Text

/-! ### Reading literals -/

/-- The character that a backslash in front of the character stands for, where that takes no digits.
-/
def escaped? (c : Char) : Option Char :=
  if c = '\\' || isQuote c then some c
  else if c = 'n' then some '\n'
  else if c = 'r' then some '\r'
  else if c = 't' then some '\t'
  else none

/-- The text of a literal behind its opening quote `q`.  The closing quote must end it, a line end
is not allowed, and `\x` takes two hexadecimal digits. -/
def unquote (q : Char) : List Char → Option (List Char)
  | [] => none
  | '\\' :: 'x' :: a :: b :: rest =>
    (hexNumber? [a, b]).bind fun n => (unquote q rest).map (Char.ofNat n :: ·)
  | '\\' :: c :: rest => (escaped? c).bind fun d => (unquote q rest).map (d :: ·)
  | c :: rest =>
    if c = q then if rest = [] then some [] else none
    else if isLineBreak c then none
    else (unquote q rest).map (c :: ·)

/-- The text that a string literal denotes, if the whole of `literal` is one. -/
def denoted? (literal : String) : Option String :=
  match literal.toList with
  | [] => none
  | q :: rest => if isQuote q then (unquote q rest).map String.ofList else none

theorem unquote_hex (q a b : Char) (rest : List Char) :
    unquote q ('\\' :: 'x' :: a :: b :: rest) =
      (hexNumber? [a, b]).bind fun n => (unquote q rest).map (Char.ofNat n :: ·) := by
  rw [unquote]

theorem unquote_escape {q c : Char} (hc : c ≠ 'x') (rest : List Char) :
    unquote q ('\\' :: c :: rest) = (escaped? c).bind fun d => (unquote q rest).map (d :: ·) := by
  rw [unquote]
  rintro a b rest' rfl
  exact absurd rfl hc

theorem unquote_cons {q c : Char} (hc : c ≠ '\\') (rest : List Char) :
    unquote q (c :: rest) =
      if c = q then if rest = [] then some [] else none
      else if isLineBreak c then none
      else (unquote q rest).map (c :: ·) := by
  rw [unquote]
  · rintro a b rest' rfl
    exact absurd rfl hc
  · rintro d rest' rfl
    exact absurd rfl hc

/-! ### Denoting texts are single literals -/

/-- A hexadecimal digit is an ordinary character of a literal. -/
theorem ordinary_of_hexDigit? {c : Char} {n : Nat} (h : hexDigit? c = some n) :
    c ∉ ['\\', '\'', '"', '\n', '\r'] := by
  intro hc
  simp only [List.mem_cons, List.not_mem_nil, or_false] at hc
  rcases hc with rfl | rfl | rfl | rfl | rfl <;> cases h

theorem hexDigit?_of_hexNumber? {a b : Char} {n : Nat} (h : hexNumber? [a, b] = some n) :
    (∃ i, hexDigit? a = some i) ∧ ∃ j, hexDigit? b = some j := by
  cases ha : hexDigit? a with
  | none => simp [hexNumber?, ha] at h
  | some i =>
    cases hb : hexDigit? b with
    | none => simp [hexNumber?, ha, hb] at h
    | some j => exact ⟨⟨i, rfl⟩, ⟨j, rfl⟩⟩

/-- An ordinary character is taken along by the lexer of literals. -/
theorem shortBody_ordinary {q c : Char} {rest : List Char} (hback : c ≠ '\\') (hq : c ≠ q)
    (hbreak : ¬ isLineBreak c) (hrest : shortBody q rest = some (rest, [])) :
    shortBody q (c :: rest) = some (c :: rest, []) := by
  rw [isLineBreak] at hbreak
  rw [shortBody_cons hback, if_neg hq, if_neg hbreak, hrest]
  rfl

/-- The lexer ends a literal where its reader does. -/
theorem shortBody_of_unquote {q : Char} {cs text : List Char} (hq : isQuote q)
    (h : unquote q cs = some text) : shortBody q cs = some (cs, []) := by
  have hback := ne_backslash_of_isQuote hq
  fun_induction unquote q cs generalizing text with
  | case1 => cases h
  | case2 a b rest ih =>
    obtain ⟨n, hn, hmap⟩ := Option.bind_eq_some_iff.mp h
    obtain ⟨tail, htail, -⟩ := Option.map_eq_some_iff.mp hmap
    obtain ⟨⟨i, ha⟩, ⟨j, hb⟩⟩ := hexDigit?_of_hexNumber? hn
    -- the two digits are ordinary characters, so the lexer passes over them too
    have hordinary {d : Char} {k : Nat} {r : List Char} (hd : hexDigit? d = some k)
        (hr : shortBody q r = some (r, [])) : shortBody q (d :: r) = some (d :: r, []) := by
      have hnot := ordinary_of_hexDigit? hd
      simp only [List.mem_cons, List.not_mem_nil, or_false, not_or] at hnot
      obtain ⟨hdback, hsingle, hdouble, hnewline, hreturn⟩ := hnot
      have hdq : d ≠ q := by
        rintro rfl
        simp [isQuote, hsingle, hdouble] at hq
      exact shortBody_ordinary hdback hdq (by simp [isLineBreak, hnewline, hreturn]) hr
    have hdigits := hordinary ha (hordinary hb (ih htail))
    rw [shortBody, hdigits]
    rfl
  | case3 c rest _ ih =>
    obtain ⟨d, -, hmap⟩ := Option.bind_eq_some_iff.mp h
    obtain ⟨tail, htail, -⟩ := Option.map_eq_some_iff.mp hmap
    rw [shortBody, ih htail]
    rfl
  | case4 =>
    rw [shortBody_cons hback, if_pos rfl]
  | case5 => cases h
  | case6 => cases h
  | case7 c rest hone htwo hne hbreak ih =>
    obtain ⟨tail, htail, -⟩ := Option.map_eq_some_iff.mp h
    -- a backslash here would be the last character, behind which no quote can come
    have hcback : c ≠ '\\' := by
      rintro rfl
      cases rest with
      | nil => cases htail
      | cons d rest => exact htwo d rest rfl rfl
    exact shortBody_ordinary hcback hne hbreak (ih htail)

/-- **What denotes a text is a single string literal.** -/
theorem isStringLiteral_of_denoted? {literal s : String} (h : denoted? literal = some s) :
    isStringLiteral literal.toList := by
  unfold denoted? at h
  split at h
  case h_1 => cases h
  case h_2 q rest hliteral =>
    split at h
    case isFalse => cases h
    case isTrue hq =>
      obtain ⟨text, htext, -⟩ := Option.map_eq_some_iff.mp h
      have hback := ne_backslash_of_isQuote hq
      -- the closing quote is the last character, so the literal does not begin with three quotes
      have hshort : rest.take 2 ≠ [q, q] := by
        intro htake
        have hrest : rest = q :: q :: rest.drop 2 := by
          have happend := List.take_append_drop 2 rest
          rw [htake] at happend
          exact happend.symm
        rw [hrest, unquote_cons hback] at htext
        simp at htext
      have hword : isNameChar q = false := by
        rcases (by simpa [isQuote] using hq : q = '\'' ∨ q = '"') with rfl | rfl <;> rfl
      rw [hliteral, isStringLiteral]
      simp [hword, literal?, hq, hshort, shortBody_of_unquote hq htext, consFirst]

/-! ### Literals in single quotes -/

theorem hexDigit?_digitChar :
    ∀ d < 16, hexDigit? d.digitChar = some d ∧ isControl d.digitChar = false := by
  decide

/-- A number below 256 has a high and a low digit, and the high one may be zero. -/
theorem twoHexDigits_eq {n : Nat} (h : n < 256) :
    twoHexDigits n = [(n / 16).digitChar, (n % 16).digitChar] := by
  rcases Nat.lt_or_ge n 16 with hsmall | hlarge
  · have hdigits : hexDigits n = [n.digitChar] := Nat.toDigits_of_lt_base hsmall
    rw [twoHexDigits, hdigits, Nat.div_eq_of_lt hsmall, Nat.mod_eq_of_lt hsmall]
    rfl
  · have hdigits : hexDigits n = [(n / 16).digitChar, (n % 16).digitChar] := by
      rw [hexDigits, Nat.toDigits_of_base_le (by decide) hlarge,
        Nat.toDigits_of_lt_base (by omega)]
      rfl
    rw [twoHexDigits, hdigits]
    rfl

/-- A control character is below 160, and two hexadecimal digits give it back. -/
theorem hexNumber?_twoHexDigits {n : Nat} (h : n < 160) :
    ∃ a b, twoHexDigits n = [a, b] ∧ hexNumber? [a, b] = some n ∧ ControlFree [a, b] := by
  obtain ⟨hhigh, hfirst⟩ := hexDigit?_digitChar (n / 16) (by omega)
  obtain ⟨hlow, hsecond⟩ := hexDigit?_digitChar (n % 16) (by omega)
  refine ⟨_, _, twoHexDigits_eq (by omega), ?_, ?_⟩
  · have hsum : n / 16 * 16 + n % 16 = n := by omega
    simp [hexNumber?, hhigh, hlow, hsum]
  · rw [controlFree_cons, controlFree_cons]
    exact ⟨hfirst, hsecond, controlFree_nil⟩

theorem toNat_lt_of_isControl {c : Char} (h : isControl c) : c.toNat < 160 := by
  simp only [isControl, Bool.or_eq_true, Bool.and_eq_true, decide_eq_true_eq] at h
  omega

/-- The three ways in which a character is quoted: with a backslash in front of a character that
stands for it, by its number, or as it is. -/
theorem quoteChar_cases (c : Char) :
    (∃ d, quoteChar c = ['\\', d] ∧ escaped? d = some c ∧ isControl d = false) ∨
      (∃ a b, quoteChar c = ['\\', 'x', a, b] ∧ hexNumber? [a, b] = some c.toNat ∧
        ControlFree [a, b]) ∨
      (quoteChar c = [c] ∧ c ≠ '\\' ∧ c ≠ '\'' ∧ isControl c = false) := by
  unfold quoteChar
  split_ifs with hplain hn hr ht hcontrol
  · refine .inl ⟨c, rfl, ?_⟩
    rcases (by simpa using hplain : c = '\\' ∨ c = '\'') with rfl | rfl <;> decide
  · exact .inl ⟨'n', rfl, by rw [hn]; decide⟩
  · exact .inl ⟨'r', rfl, by rw [hr]; decide⟩
  · exact .inl ⟨'t', rfl, by rw [ht]; decide⟩
  · obtain ⟨a, b, hdigits, hread⟩ := hexNumber?_twoHexDigits (toNat_lt_of_isControl hcontrol)
    exact .inr (.inl ⟨a, b, by rw [hdigits], hread⟩)
  · obtain ⟨hback, hquote⟩ : c ≠ '\\' ∧ c ≠ '\'' := by simpa using hplain
    exact .inr (.inr ⟨rfl, hback, hquote, by simpa using hcontrol⟩)

/-- What a character is quoted as is read as the character. -/
theorem unquote_quoteChar (c : Char) (rest : List Char) :
    unquote '\'' (quoteChar c ++ rest) = (unquote '\'' rest).map (c :: ·) := by
  rcases quoteChar_cases c with ⟨d, heq, hd, -⟩ | ⟨a, b, heq, hnumber, -⟩ | ⟨heq, hback, hquote, hc⟩
  · have hx : d ≠ 'x' := by
      rintro rfl
      cases hd
    rw [heq, List.cons_append, List.singleton_append, unquote_escape hx, hd, Option.bind_some]
  · rw [heq]
    refine (unquote_hex '\'' a b rest).trans ?_
    rw [hnumber, Option.bind_some, Char.ofNat_toNat]
  · have hbreak := Bool.eq_false_iff.mp (isLineBreak_of_isControl hc)
    rw [heq, List.singleton_append, unquote_cons hback, if_neg hquote, if_neg hbreak]

theorem unquote_flatMap_quoteChar (cs : List Char) :
    unquote '\'' (cs.flatMap quoteChar ++ ['\'']) = some cs := by
  induction cs with
  | nil => rfl
  | cons c cs ih =>
    rw [List.flatMap_cons, List.append_assoc, unquote_quoteChar, ih]
    rfl

theorem denoted?_quoted (s : String) : denoted? (quoted s) = some s := by
  have hread : denoted? (quoted s) =
      (unquote '\'' (s.toList.flatMap quoteChar ++ ['\''])).map String.ofList := by
    simp [denoted?, quoted, quotedChars, isQuote]
  rw [hread, unquote_flatMap_quoteChar]
  simp

theorem controlFree_quoteChar (c : Char) : ControlFree (quoteChar c) := by
  rcases quoteChar_cases c with ⟨d, heq, -, hd⟩ | ⟨a, b, heq, -, hfree⟩ | ⟨heq, -, -, hc⟩
  · rw [heq, controlFree_cons, controlFree_cons]
    exact ⟨rfl, hd, controlFree_nil⟩
  · rw [heq, controlFree_cons, controlFree_cons]
    exact ⟨rfl, rfl, hfree⟩
  · rw [heq, controlFree_cons]
    exact ⟨hc, controlFree_nil⟩

theorem controlFree_quotedChars (cs : List Char) : ControlFree (quotedChars cs) := by
  have hbody : ControlFree (cs.flatMap quoteChar) := .flatMap fun c _ => controlFree_quoteChar c
  simp only [quotedChars, List.cons_append, controlFree_cons, controlFree_append]
  exact ⟨by decide, hbody, by decide, controlFree_nil⟩

theorem controlFree_quoted (s : String) : ControlFree (quoted s).toList := by
  rw [quoted, String.toList_ofList]
  exact controlFree_quotedChars s.toList

/-! ### Text operands of formulas -/

theorem unquote_verbatim {cs : List Char} (h : ∀ c ∈ cs, needsRequoting c = false) :
    unquote '"' (cs ++ ['"']) = some cs := by
  induction cs with
  | nil => rfl
  | cons c cs ih =>
    obtain ⟨hc, hcs⟩ := List.forall_mem_cons.mp h
    simp only [needsRequoting, Bool.or_eq_false_iff, decide_eq_false_iff_not] at hc
    obtain ⟨⟨hquote, hback⟩, hcontrol⟩ := hc
    have hbreak := Bool.eq_false_iff.mp (isLineBreak_of_isControl hcontrol)
    rw [List.cons_append, unquote_cons hback, if_neg hquote, if_neg hbreak, ih hcs]
    rfl

theorem denoted?_literalOf (s : String) : denoted? (literalOf s) = some s := by
  unfold literalOf
  split
  case isTrue => exact denoted?_quoted s
  case isFalse hplain =>
    have hall : ∀ c ∈ s.toList, needsRequoting c = false := by simpa using hplain
    have hread : denoted? (String.ofList ('"' :: s.toList ++ ['"'])) =
        (unquote '"' (s.toList ++ ['"'])).map String.ofList := by
      simp [denoted?, isQuote]
    rw [hread, unquote_verbatim hall]
    simp

/-- The literal of a text operand has no controls, whichever of its two forms it takes. -/
theorem controlFree_textLiteral (operand : String) : ControlFree (textLiteral operand).toList := by
  unfold textLiteral
  simp only
  split
  case isTrue =>
    rw [String.toList_ofList]
    exact controlFree_quotedChars _
  case isFalse hplain =>
    have hinner : ControlFree (insideQuotes operand.toList) := by
      intro c hc
      have hneeds : needsRequoting c = false := by
        rw [Bool.eq_false_iff]
        exact fun hneeds => hplain (List.any_eq_true.mpr ⟨c, hc, hneeds⟩)
      simp only [needsRequoting, Bool.or_eq_false_iff] at hneeds
      exact hneeds.2
    simp only [String.toList_ofList, List.cons_append, controlFree_cons, controlFree_append]
    exact ⟨by decide, hinner, by decide, controlFree_nil⟩

theorem textLiteral_denotes (s : String) :
    denoted? (textLiteral (String.ofList (enclosed '"' s.toList))) = some s := by
  rw [textLiteral_enclosed, denoted?_literalOf]

/-- **A text is denoted by its literals.**  In single quotes it is one string literal without
control characters that denotes it.  In a formula, between double quotes and with those inside it
doubled, it is one text operand, and the literal which the program gets for that operand is one
string literal without control characters that denotes the text as well. -/
theorem denoted?_literals (s : String) :
    ((quoted s).toList.head? = some '\'' ∧ isStringLiteral (quoted s).toList ∧
      denoted? (quoted s) = some s ∧ ControlFree (quoted s).toList) ∧
    let operand := String.ofList (enclosed '"' s.toList)
    let written := (Expr.text (textLiteral operand)).render
    tokenize ("=" ++ operand) = .ok [⟨.operand, .text, operand⟩] ∧
      isStringLiteral written.toList ∧ denoted? written = some s ∧ ControlFree written.toList := by
  have hquoted := denoted?_quoted s
  have hwritten := textLiteral_denotes s
  refine ⟨⟨?_, isStringLiteral_of_denoted? hquoted, hquoted, controlFree_quoted s⟩, ?_⟩
  · simp [quoted, quotedChars]
  · intro operand written
    refine ⟨?_, isStringLiteral_of_denoted? hwritten, hwritten, controlFree_textLiteral operand⟩
    -- the operand is the written form of a tree that is a text
    have htokens := Term.tokenize_written (t := .text s) rfl
    simpa [Term.written, Term.tokens, Token.operand, operandSubkind_text] using htokens

end ReportCompiler.Target
