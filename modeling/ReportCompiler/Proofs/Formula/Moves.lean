import ReportCompiler.Proofs.Formula.Scanning

/-!
# The moves of the scanner

A step of the scanner looks at one of many characters, with a turn of its own for each kind.  What
it does to the memory comes to a few moves: text joins the operand, or one token is completed,
behind the operand that was gathered in front of it.  What every move keeps is therefore an
invariant of every scan.

## Main definitions

* `Scanner.Move s s'` - the ways in which the scanner moves on.

## Main results

* `Scanner.move_of_step` - **a step is one of the moves.**
* `Scanner.invariant_of_scan` - what the moves keep, a whole scan keeps.
-/

namespace ReportCompiler.Formula.Scanner

variable {s s' : Scanner} {c : Char} {rest rest' : List Char}

/-- The operators of one character. -/
def operatorChars : List Char :=
  ['+', '-', '*', '/', '^', '&', '=', '>', '<', '%']

/-- The ways in which the scanner moves on. -/
inductive Move (s : Scanner) : Scanner → Prop
  /-- Text joins the operand, and does not begin it with a character that would end one. -/
  | gather {cs : List Char}
    (h : s.pending = "" → ∀ c ∈ cs.head?, isTerminator c = false) : Move s (s.gather cs)
  /-- An operand that is complete at once. -/
  | operand {v : String} (hpending : s.pending = "")
    (hv : ∀ c ∈ v.toList.head?, isTerminator c = false) : Move s (s.emit (.operand v))
  /-- A run of blanks. -/
  | blank {cs : List Char} (h : ∀ c ∈ cs, isBlankChar c) :
    Move s (s.flush.emit ⟨.whitespace, .plain, String.ofList cs⟩)
  /-- An operator of two characters. -/
  | pair {c d : Char} (h : isPairOperator c d) :
    Move s (s.flush.emit ⟨.infixOp, .plain, String.ofList [c, d]⟩)
  /-- An operator of one character. -/
  | operator {c : Char} (h : c ∈ operatorChars) : Move s (s.flush.emit (s.flush.operatorToken c))
  /-- The opener of an array. -/
  | openArray : Move s (s.flush.openGroup ⟨.array, .opener, "\x7b"⟩)
  /-- An opening bracket. -/
  | openParen (hpending : s.pending = "") : Move s (s.openGroup ⟨.paren, .opener, "("⟩)
  /-- The opener of a function, whose name is the operand. -/
  | openCall (hpending : s.pending ≠ "") :
    Move s (openGroup { s with pending := "" } ⟨.func, .opener, s.pending ++ "("⟩)
  /-- The closer of the innermost group. -/
  | close {o : Token} {outer : List Token} (h : s.groups = o :: outer) :
    Move s (emit { s.flush with groups := outer } ⟨o.kind, .closer, String.ofList [closerOf o]⟩)
  /-- A separator. -/
  | separator {c : Char} (h : c = ';' ∨ c = ',') : Move s (s.flush.emit (s.flush.separatorToken c))

theorem isTerminator_of_operator (h : c ∈ operatorChars) : isTerminator c :=
  List.all_eq_true.mp (by decide : operatorChars.all isTerminator) c h

@[simp] theorem flush_groups (s : Scanner) : s.flush.groups = s.groups := by
  unfold flush
  split <;> rfl

theorem flush_flush (s : Scanner) : s.flush.flush = s.flush :=
  flush_of_empty (flush_pending s)

/-! ### What each kind of character does -/

theorem move_of_stepQuote (hc : c = '"' ∨ c = '\'') (h : s.stepQuote c rest = .ok (s', rest')) :
    s.Move s' := by
  unfold stepQuote at h
  split at h
  case isTrue => cases h
  case isFalse hafter =>
    split at h
    case h_1 => cases h
    case h_2 body tail hsplit =>
      split at h
      case isTrue hquote =>
        have hpending : s.pending = "" := by simpa [hquote] using hafter
        obtain ⟨rfl, rfl⟩ := Prod.mk.inj (Except.ok.inj h)
        apply Move.operand hpending
        rw [String.toList_ofList, hquote]
        rintro _ ⟨⟩
        rfl
      case isFalse hquote =>
        obtain rfl := hc.resolve_left hquote
        obtain ⟨rfl, rfl⟩ := Prod.mk.inj (Except.ok.inj h)
        apply Move.gather
        rintro - _ ⟨⟩
        rfl

theorem move_of_stepBracket (h : s.stepBracket rest = .ok (s', rest')) : s.Move s' := by
  unfold stepBracket at h
  split at h
  case h_1 => cases h
  case h_2 body tail hsplit =>
    obtain ⟨rfl, rfl⟩ := Prod.mk.inj (Except.ok.inj h)
    apply Move.gather
    rintro - _ ⟨⟩
    rfl

/-- Error values begin with a number sign, which ends no operand. -/
theorem begins_of_mem_errorValues {e : String} (h : e ∈ errorValues) :
    ∀ c ∈ e.toList.head?, isTerminator c = false := by
  have hbegin : ∀ e ∈ errorValues, e.toList.head? = some '#' := by decide
  rw [hbegin e h]
  rintro _ ⟨⟩
  rfl

theorem move_of_stepError (h : s.stepError rest = .ok (s', rest')) : s.Move s' := by
  unfold stepError at h
  split at h
  case h_1 => cases h
  case h_2 e tail hsplit =>
    have hbegins := begins_of_mem_errorValues (splitErrorValue_append hsplit).1
    split at h
    case isTrue hpending =>
      obtain ⟨rfl, rfl⟩ := Prod.mk.inj (Except.ok.inj h)
      exact .operand hpending hbegins
    case isFalse =>
      obtain ⟨rfl, rfl⟩ := Prod.mk.inj (Except.ok.inj h)
      exact .gather fun _ => hbegins

theorem move_of_stepBlank (rest : List Char) (hc : isBlankChar c) :
    s.Move (s.stepBlank c rest).1 := by
  apply Move.blank
  intro d hd
  rcases List.mem_cons.mp hd with rfl | hmem
  · exact hc
  · exact List.all_eq_true.mp List.all_takeWhile d hmem

theorem move_of_stepOperator (hc : c ∈ operatorChars) :
    s.Move (s.flush.stepOperator c rest).1 := by
  unfold stepOperator
  split
  case h_1 d tail =>
    by_cases hpair : isPairOperator c d
    · rw [if_pos hpair]
      exact .pair hpair
    · rw [if_neg hpair]
      exact .operator hc
  case h_2 => exact .operator hc

theorem move_of_stepOpener (s : Scanner) (c : Char) : s.Move (s.stepOpener c) := by
  unfold stepOpener
  by_cases hbrace : c = '{'
  · rw [if_pos hbrace]
    exact .openArray
  · rw [if_neg hbrace]
    by_cases hpending : s.pending = ""
    · rw [if_pos hpending]
      exact .openParen hpending
    · rw [if_neg hpending]
      exact .openCall hpending

theorem move_of_stepCloser (h : s.flush.stepCloser c = .ok s') : s.Move s' := by
  unfold stepCloser at h
  split at h
  case h_1 => cases h
  case h_2 o outer hgroups =>
    split at h
    case isFalse => cases h
    case isTrue hc =>
      obtain rfl := Except.ok.inj h
      rw [hc]
      rw [flush_groups] at hgroups
      exact .close hgroups

/-! ### Steps and scans -/

/-- What a character does once the operand that it ends is complete. -/
theorem move_of_dispatch
    (h : (if isTerminator c then s.flush else s).dispatch c rest = .ok (s', rest')) :
    s.Move s' := by
  -- a character that ends the operand finds it complete, any other finds it as it was
  have hends : isTerminator c → (if isTerminator c then s.flush else s) = s.flush :=
    fun hc => if_pos hc
  have hstays : isTerminator c = false → (if isTerminator c then s.flush else s) = s := by
    intro hc
    rw [hc]
    rfl
  have of_ok {p : Scanner × List Char} (hp : s.Move p.1)
      (h : (.ok p : Except ScanFault _) = .ok (s', rest')) : s.Move s' := by
    rw [Except.ok.inj h] at hp
    exact hp
  generalize (if isTerminator c then s.flush else s) = base at h hends hstays
  unfold dispatch at h
  split at h
  case isTrue hc =>
    have hquote : c = '"' ∨ c = '\'' := by simpa using hc
    obtain rfl := hstays (by rcases hquote with rfl | rfl <;> rfl)
    exact move_of_stepQuote hquote h
  split at h
  case isTrue hc =>
    obtain rfl := hstays (by rw [hc]; rfl)
    exact move_of_stepBracket h
  split at h
  case isTrue hc =>
    obtain rfl := hstays (by rw [hc]; rfl)
    exact move_of_stepError h
  split at h
  case isTrue hc =>
    -- a space ends the operand before its turn and a line feed in its turn
    by_cases hterminator : isTerminator c
    · rw [hends hterminator, stepBlank, flush_flush] at h
      exact of_ok (move_of_stepBlank rest hc) h
    · rw [hstays (by simpa using hterminator)] at h
      exact of_ok (move_of_stepBlank rest hc) h
  split at h
  case isTrue hc =>
    have hoperator : c ∈ operatorChars := List.contains_iff_mem.mp hc
    rw [hends (isTerminator_of_operator hoperator)] at h
    exact of_ok (move_of_stepOperator hoperator) h
  split at h
  case isTrue hc =>
    obtain rfl := hstays (by rcases (by simpa using hc : c = '{' ∨ c = '(') with rfl | rfl <;> rfl)
    exact of_ok (p := (base.stepOpener c, rest)) (move_of_stepOpener base c) h
  split at h
  case isTrue hc =>
    obtain rfl := hends (by rcases (by simpa using hc : c = ')' ∨ c = '}') with rfl | rfl <;> rfl)
    cases hcloser : s.flush.stepCloser c with
    | error fault => simp [hcloser] at h
    | ok next =>
      simp only [hcloser] at h
      exact of_ok (p := (next, rest)) (move_of_stepCloser hcloser) h
  split at h
  case isTrue hc =>
    have hseparator : c = ';' ∨ c = ',' := by simpa using hc
    obtain rfl := hends (by rcases hseparator with rfl | rfl <;> rfl)
    exact of_ok (p := (s.flush.emit (s.flush.separatorToken c), rest)) (.separator hseparator) h
  case isFalse hquote _ _ hblank hoperator _ hcloser hseparator =>
    have hplain : isTerminator c = false := by
      simp_all [isTerminator, isBlankChar]
    obtain rfl := hstays hplain
    refine of_ok (p := (base.gather [c], rest)) (.gather ?_) h
    rintro - _ ⟨⟩
    exact hplain

/-- **A step is one of the moves.** -/
theorem move_of_step (h : s.step c rest = .ok (s', rest')) : s.Move s' := by
  unfold step at h
  split at h
  case isTrue hexponent =>
    obtain ⟨rfl, rfl⟩ := Prod.mk.inj (Except.ok.inj h)
    apply Move.gather
    intro hpending
    -- a sign joins a number that waits for its exponent, and nothing else
    simp [hpending, awaitsExponent] at hexponent
  case isFalse => exact move_of_dispatch h

/-- What every move and the completion of an operand keep, a whole scan keeps. -/
theorem invariant_of_scan {I : Scanner → Prop} (hmove : ∀ s s', I s → s.Move s' → I s')
    (hflush : ∀ s, I s → I s.flush) {cs : List Char} (h : I s) (hscan : s.scan cs = .ok s') :
    I s' := by
  fun_induction scan s cs with
  | case1 s =>
    obtain rfl := Except.ok.inj hscan
    exact hflush s h
  | case2 => cases hscan
  | case3 s c rest next rest' hstep ih => exact ih (hmove s next h (move_of_step hstep)) hscan

end ReportCompiler.Formula.Scanner
