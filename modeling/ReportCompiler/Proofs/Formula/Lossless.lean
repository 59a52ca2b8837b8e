import ReportCompiler.Proofs.Formula.Scanning

/-!
# Tokens hold the whole text

The scanner moves characters from the text into the operand that it gathers, and from there into
tokens.  At every moment the tokens that are complete, the operand gathered so far and the text
still to be read are, in this order, the text that it was given.  For this it matters that a token
is complete only when nothing is gathered that would have to stand in front of it.

## Main definitions

* `Token.Proper` - a token has text, and an operand is of the sort that its text says.
* `Scanner.text` - the text of the complete tokens and of the operand gathered so far.
* `Scanner.Splits` - what holds of the scanner and the text still to be read.

## Main results

* `Scanner.Splits.step`, `Scanner.Splits.scan` - one step, and so every scan, loses nothing.
* `join_tokenize` - **the tokens of a formula are its text**, without the equals sign in front.
* `proper_of_tokenize` - operands are sorted by their texts.
-/

namespace ReportCompiler.Formula

/-! ### Tokens -/

/-- A token as they are made from text: it is not empty, and an operand is sorted by its text. -/
structure Token.Proper (t : Token) : Prop where
  /-- The token has text. -/
  nonempty : t.value ≠ ""
  /-- An operand is of the sort that its text says. -/
  sorted : t.kind = .operand → t.subkind = Token.operandSubkind t.value

theorem Token.proper_operand {v : String} (h : v ≠ "") : (Token.operand v).Proper :=
  ⟨h, fun _ => rfl⟩

theorem Token.proper_of_kind {t : Token} (hkind : t.kind ≠ .operand) (h : t.value ≠ "") :
    t.Proper :=
  ⟨h, fun hoperand => absurd hoperand hkind⟩

/-- A text of at least one character is not empty. -/
theorem ofList_cons_ne_empty (c : Char) (cs : List Char) : String.ofList (c :: cs) ≠ "" := by
  simp

/-! ### The scanner and its text -/

namespace Scanner

/-- The text of the complete tokens and of the operand gathered so far. -/
def text (s : Scanner) : List Char :=
  s.done.reverse.flatMap (·.value.toList) ++ s.pending.toList

/-- What the scanner has taken in and the text still to be read are the text that it was given, its
tokens are proper, and no group was opened by an operand. -/
structure Splits (s : Scanner) (input rest : List Char) : Prop where
  /-- Nothing is lost, doubled or moved. -/
  text : s.text ++ rest = input
  /-- The complete tokens are proper. -/
  proper : ∀ t ∈ s.done, t.Proper
  /-- What opens a group is no operand. -/
  openers : ∀ t ∈ s.groups, t.kind ≠ .operand

variable {s s' : Scanner} {input rest rest' : List Char} {c : Char} {t : Token}

theorem splits_start (input : List Char) : start.Splits input input where
  text := rfl
  proper := by simp [start]
  openers := by simp [start]

namespace Splits

theorem gather {cs : List Char} (h : s.Splits input (cs ++ rest)) :
    (s.gather cs).Splits input rest where
  text := by
    rw [← h.text]
    simp [Scanner.text, Scanner.gather]
  proper := h.proper
  openers := h.openers

/-- A token is complete where no operand is left in front of it. -/
theorem emit (h : s.Splits input (t.value.toList ++ rest)) (hpending : s.pending = "")
    (ht : t.Proper) : (s.emit t).Splits input rest where
  text := by
    rw [← h.text]
    simp [Scanner.text, Scanner.emit, hpending]
  proper := List.forall_mem_cons.mpr ⟨ht, h.proper⟩
  openers := h.openers

/-- A token of one character. -/
theorem emitSingle (h : s.Splits input (c :: rest)) (hpending : s.pending = "")
    (hvalue : t.value = String.ofList [c]) (hkind : t.kind ≠ .operand) :
    (s.emit t).Splits input rest := by
  have hne : t.value ≠ "" := by
    rw [hvalue]
    exact ofList_cons_ne_empty c []
  refine Splits.emit ?_ hpending (Token.proper_of_kind hkind hne)
  rw [hvalue]
  simpa using h

theorem flush (h : s.Splits input rest) : s.flush.Splits input rest := by
  unfold Scanner.flush
  split
  case isTrue => exact h
  case isFalse hpending =>
    refine ⟨?_, List.forall_mem_cons.mpr ⟨Token.proper_operand hpending, h.proper⟩, h.openers⟩
    rw [← h.text]
    simp [Scanner.text]

/-- A group is opened where no operand is left in front of it. -/
theorem openGroup (h : s.Splits input (t.value.toList ++ rest)) (hpending : s.pending = "")
    (hkind : t.kind ≠ .operand) (hvalue : t.value ≠ "") : (s.openGroup t).Splits input rest :=
  have hemit := h.emit hpending (Token.proper_of_kind hkind hvalue)
  ⟨hemit.text, hemit.proper, List.forall_mem_cons.mpr ⟨hkind, h.openers⟩⟩

/-! ### What each kind of character does -/

theorem stepQuote (h : s.Splits input (c :: rest)) (hstep : s.stepQuote c rest = .ok (s', rest')) :
    s'.Splits input rest' := by
  unfold Scanner.stepQuote at hstep
  split at hstep
  case isTrue => cases hstep
  case isFalse hafter =>
    split at hstep
    case h_1 => cases hstep
    case h_2 body tail hsplit =>
      rw [← splitQuoted_append hsplit] at h
      split at hstep
      case isTrue hquote =>
        -- a text stands by itself: the scanner refuses one behind an operand
        have hpending : s.pending = "" := by simpa [hquote] using hafter
        obtain ⟨rfl, rfl⟩ := Prod.mk.inj (Except.ok.inj hstep)
        refine Splits.emit ?_ hpending (Token.proper_operand (ofList_cons_ne_empty c body))
        simpa using h
      case isFalse =>
        obtain ⟨rfl, rfl⟩ := Prod.mk.inj (Except.ok.inj hstep)
        exact Splits.gather h

theorem stepBracket (h : s.Splits input ('[' :: rest))
    (hstep : s.stepBracket rest = .ok (s', rest')) : s'.Splits input rest' := by
  unfold Scanner.stepBracket at hstep
  split at hstep
  · cases hstep
  case h_2 body tail hsplit =>
    rw [← splitBrackets_append hsplit] at h
    obtain ⟨rfl, rfl⟩ := Prod.mk.inj (Except.ok.inj hstep)
    exact Splits.gather h

theorem stepError (h : s.Splits input ('#' :: rest))
    (hstep : s.stepError rest = .ok (s', rest')) : s'.Splits input rest' := by
  unfold Scanner.stepError at hstep
  split at hstep
  · cases hstep
  case h_2 e tail hsplit =>
    obtain ⟨hmem, happend⟩ := splitErrorValue_append hsplit
    rw [← happend] at h
    have hne : e ≠ "" := by
      rintro rfl
      exact absurd (errorValues_length hmem) (by decide)
    split at hstep
    case isTrue hpending =>
      obtain ⟨rfl, rfl⟩ := Prod.mk.inj (Except.ok.inj hstep)
      exact Splits.emit h hpending (Token.proper_operand hne)
    case isFalse =>
      obtain ⟨rfl, rfl⟩ := Prod.mk.inj (Except.ok.inj hstep)
      exact Splits.gather h

theorem stepBlank (h : s.Splits input (c :: rest)) :
    (s.stepBlank c rest).1.Splits input (s.stepBlank c rest).2 := by
  let blanks : Token := ⟨.whitespace, .plain, String.ofList (c :: rest.takeWhile isBlankChar)⟩
  have hsplit : c :: rest = blanks.value.toList ++ rest.dropWhile isBlankChar := by
    rw [String.toList_ofList, List.cons_append, List.takeWhile_append_dropWhile]
  rw [hsplit] at h
  have hproper : blanks.Proper := Token.proper_of_kind (by simp [blanks]) (ofList_cons_ne_empty _ _)
  exact h.flush.emit (flush_pending s) hproper

theorem stepOperator (h : s.Splits input (c :: rest)) (hpending : s.pending = "") :
    (s.stepOperator c rest).1.Splits input (s.stepOperator c rest).2 := by
  have htoken : (s.operatorToken c).value = String.ofList [c] ∧
      (s.operatorToken c).kind ≠ .operand := by
    unfold operatorToken
    split
    case isTrue hpercent => exact ⟨by rw [hpercent], by simp⟩
    case isFalse =>
      split
      · refine ⟨rfl, ?_⟩
        cases s.signIsInfix <;> simp
      · exact ⟨rfl, by simp⟩
  have hsingle := h.emitSingle hpending htoken.1 htoken.2
  unfold Scanner.stepOperator
  split
  case h_1 d tail =>
    split
    case isTrue =>
      refine Splits.emit ?_ hpending (Token.proper_of_kind (by simp) (ofList_cons_ne_empty _ _))
      simpa using h
    case isFalse => exact hsingle
  case h_2 => exact hsingle

theorem stepOpener (h : s.Splits input (c :: rest)) (hc : c = '{' ∨ c = '(') :
    (s.stepOpener c).Splits input rest := by
  unfold Scanner.stepOpener
  split
  case isTrue hbrace =>
    rw [hbrace] at h
    exact h.flush.openGroup (flush_pending s) (by simp) (by simp)
  case isFalse hbrace =>
    obtain rfl := hc.resolve_left hbrace
    split
    case isTrue hpending => exact h.openGroup hpending (by simp) (by simp)
    case isFalse hpending =>
      -- the operand is the name of a function, and goes into the token of its opener
      have hname : Splits { s with pending := "" } input ((s.pending ++ "(").toList ++ rest) := by
        refine ⟨?_, h.proper, h.openers⟩
        rw [← h.text]
        simp [Scanner.text]
      exact hname.openGroup rfl (by simp) (by simp [hpending])

theorem stepCloser (h : s.Splits input (c :: rest)) (hpending : s.pending = "")
    (hstep : s.stepCloser c = .ok s') : s'.Splits input rest := by
  unfold Scanner.stepCloser at hstep
  split at hstep
  · cases hstep
  case h_2 opener outer hgroups =>
    split at hstep
    case isFalse => cases hstep
    case isTrue =>
      obtain rfl := Except.ok.inj hstep
      have hopeners := h.openers
      rw [hgroups] at hopeners
      obtain ⟨hopener, houter⟩ := List.forall_mem_cons.mp hopeners
      have hleft : Splits { s with groups := outer } input (c :: rest) :=
        ⟨h.text, h.proper, houter⟩
      exact hleft.emitSingle hpending rfl hopener

theorem separator (h : s.Splits input (c :: rest)) (hpending : s.pending = "")
    (hc : c = ';' ∨ c = ',') : (s.emit (s.separatorToken c)).Splits input rest := by
  have htoken : (s.separatorToken c).value = String.ofList [c] ∧
      (s.separatorToken c).kind ≠ .operand := by
    unfold separatorToken
    split
    case isTrue hsemicolon => exact ⟨by rw [hsemicolon], by simp⟩
    case isFalse hsemicolon =>
      obtain rfl := hc.resolve_left hsemicolon
      split
      · split <;> exact ⟨rfl, by simp⟩
      · exact ⟨rfl, by simp⟩
  exact h.emitSingle hpending htoken.1 htoken.2

/-! ### Steps and scans -/

theorem dispatch (h : s.Splits input (c :: rest)) (hpending : isTerminator c → s.pending = "")
    (hstep : s.dispatch c rest = .ok (s', rest')) : s'.Splits input rest' := by
  -- steps that cannot fail give their result at once
  have of_ok {p : Scanner × List Char} (hp : p.1.Splits input p.2)
      (hstep : (.ok p : Except ScanFault _) = .ok (s', rest')) : s'.Splits input rest' := by
    rw [Except.ok.inj hstep] at hp
    exact hp
  unfold Scanner.dispatch at hstep
  split at hstep
  · exact h.stepQuote hstep
  split at hstep
  case isTrue hc => exact (hc ▸ h).stepBracket hstep
  split at hstep
  case isTrue hc => exact (hc ▸ h).stepError hstep
  split at hstep
  · exact of_ok h.stepBlank hstep
  split at hstep
  case isTrue hc =>
    have hall : ['+', '-', '*', '/', '^', '&', '=', '>', '<', '%'].all isTerminator := by decide
    have hterminator : isTerminator c := List.all_eq_true.mp hall c (List.contains_iff_mem.mp hc)
    exact of_ok (h.stepOperator (hpending hterminator)) hstep
  split at hstep
  case isTrue hc => exact of_ok (h.stepOpener (by simpa using hc)) hstep
  split at hstep
  case isTrue hc =>
    have hterminator : isTerminator c := by
      rcases (by simpa using hc : c = ')' ∨ c = '}') with rfl | rfl <;> rfl
    cases hcloser : s.stepCloser c with
    | error fault => simp [hcloser] at hstep
    | ok next =>
      simp only [hcloser] at hstep
      exact of_ok (h.stepCloser (hpending hterminator) hcloser) hstep
  split at hstep
  case isTrue hc =>
    have hseparator : c = ';' ∨ c = ',' := by simpa using hc
    have hterminator : isTerminator c := by
      rcases hseparator with rfl | rfl <;> rfl
    exact of_ok (h.separator (hpending hterminator) hseparator) hstep
  · exact of_ok (p := (s.gather [c], rest)) (Splits.gather h) hstep

/-- **One step loses nothing.** -/
theorem step (h : s.Splits input (c :: rest)) (hstep : s.step c rest = .ok (s', rest')) :
    s'.Splits input rest' := by
  unfold Scanner.step at hstep
  split at hstep
  · obtain ⟨rfl, rfl⟩ := Prod.mk.inj (Except.ok.inj hstep)
    exact Splits.gather h
  · split at hstep
    case isTrue => exact h.flush.dispatch (fun _ => flush_pending s) hstep
    case isFalse hterminator => exact h.dispatch (fun hc => absurd hc hterminator) hstep

/-- **A whole scan loses nothing**, and leaves no operand behind. -/
theorem scan {cs : List Char} (h : s.Splits input cs) (hscan : s.scan cs = .ok s') :
    s'.Splits input [] ∧ s'.pending = "" := by
  fun_induction Scanner.scan s cs with
  | case1 s =>
    obtain rfl := Except.ok.inj hscan
    exact ⟨h.flush, flush_pending s⟩
  | case2 => cases hscan
  | case3 s c rest next rest' hstep ih => exact ih (h.step hstep) hscan

end Splits

end Scanner

/-! ### Whole formulas -/

/-- The scanner has put the whole of a formula into its tokens. -/
theorem splits_of_tokenize {formula : String} {body : List Char} {ts : List Token}
    (hformula : formula.toList = '=' :: body) (h : tokenize formula = .ok ts) :
    ts.flatMap (·.value.toList) = body ∧ ∀ t ∈ ts, t.Proper := by
  rw [tokenize, hformula] at h
  simp only at h
  cases hscan : Scanner.start.scan body with
  | error fault => simp [hscan] at h
  | ok s =>
    obtain ⟨hsplits, hpending⟩ := (Scanner.splits_start body).scan hscan
    simp only [hscan] at h
    split at h
    case h_2 => cases h
    case h_1 =>
      obtain rfl := Except.ok.inj h
      refine ⟨?_, fun t ht => hsplits.proper t (List.mem_reverse.mp ht)⟩
      have htext := hsplits.text
      simpa [Scanner.text, hpending] using htext

/-- A text that is no formula is one token, or none when it is empty. -/
theorem tokenize_of_head {formula : String} (h : formula.toList.head? ≠ some '=') :
    tokenize formula = .ok (if formula = "" then [] else [⟨.literal, .plain, formula⟩]) := by
  unfold tokenize
  split
  case h_1 hnil =>
    rw [String.toList_eq_nil_iff.mp hnil]
    rfl
  case h_2 body hbody => exact absurd (by rw [hbody]; rfl) h
  case h_3 hne _ =>
    rw [if_neg fun hempty => hne (by rw [hempty]; rfl)]

/-- Operands are sorted by their texts, and every token has text. -/
theorem proper_of_tokenize {formula : String} {ts : List Token} (h : tokenize formula = .ok ts) :
    ∀ t ∈ ts, t.Proper := by
  by_cases hhead : formula.toList.head? = some '='
  · obtain ⟨body, hbody⟩ := List.head?_eq_some_iff.mp hhead
    exact (splits_of_tokenize hbody h).2
  · rw [tokenize_of_head hhead] at h
    obtain rfl := Except.ok.inj h
    split
    case isTrue => simp
    case isFalse hne =>
      intro t ht
      obtain rfl := List.mem_singleton.mp ht
      exact Token.proper_of_kind (by simp) hne

/-- **The tokens of a formula are its text.**  Their texts in order, put together, are the formula
without the equals sign in front, or the whole text when it has none, and no token is empty. -/
theorem join_tokenize (formula : String) (ts : List Token) (h : tokenize formula = .ok ts) :
    String.join (ts.map Token.value) = dropEquals formula ∧ ∀ t ∈ ts, t.value ≠ "" := by
  refine ⟨?_, fun t ht => (proper_of_tokenize h t ht).nonempty⟩
  rw [← String.toList_inj, String.toList_join, List.flatMap_map]
  by_cases hhead : formula.toList.head? = some '='
  · obtain ⟨body, hbody⟩ := List.head?_eq_some_iff.mp hhead
    have hdrop : dropEquals formula = String.ofList body := by
      simp only [dropEquals, hbody]
    rw [hdrop, String.toList_ofList]
    exact (splits_of_tokenize hbody h).1
  · have hdrop : dropEquals formula = formula := by
      unfold dropEquals
      split
      case h_1 body hbody => exact absurd (by rw [hbody]; rfl) hhead
      case h_2 => rfl
    rw [tokenize_of_head hhead] at h
    obtain rfl := Except.ok.inj h
    rw [hdrop]
    split
    case isTrue hempty => simp [hempty]
    case isFalse => simp

/-- A sheet in quotes, a signed exponent, a doubled quote, an error value behind a sheet, square
brackets and a line end, all next to each other. -/
def crowdedFormula : String :=
  "='it''s'!A1*1.5E+3&\"say \"\"hi\"\"\"\n<>IF(-\x7b1;2\x7d,T[[x]],a!#REF!)%"

/-- The crowded formula falls into twenty tokens, which are its text. -/
theorem join_tokenize_crowdedFormula :
    ∃ ts, tokenize crowdedFormula = .ok ts ∧ ts.length = 20 ∧
      String.join (ts.map Token.value) = dropEquals crowdedFormula ∧ ∀ t ∈ ts, t.value ≠ "" := by
  have hlength : (tokenize crowdedFormula).toOption.map List.length = some 20 := by decide +kernel
  cases hts : tokenize crowdedFormula with
  | error fault =>
    rw [hts] at hlength
    cases hlength
  | ok ts =>
    rw [hts] at hlength
    exact ⟨ts, rfl, Option.some.inj hlength, join_tokenize crowdedFormula ts hts⟩

end ReportCompiler.Formula
