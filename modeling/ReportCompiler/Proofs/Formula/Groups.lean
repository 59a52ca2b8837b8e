import ReportCompiler.Proofs.Formula.Blanks
import ReportCompiler.Proofs.Formula.Lossless
import ReportCompiler.Proofs.Formula.Moves

/-!
# Groups, commas and signs

What a bracket, a comma, a plus or a minus is cannot be seen from the character: a bracket closes
what was opened last, a comma separates arguments or joins references, and a sign stands in front of
an operand or between two.  The scanner tells them apart by its memory.  Here the same is said about
the tokens alone: groups are nested, and every comma and every sign is of the kind that the tokens
in front of it ask for.

Each move of the scanner completes the operand in front of a new token before the token itself, so
that the token is judged by all the text before it.

## Main definitions

* `Nested ts` - every opener of `ts` has its closer, and groups do not overlap.
* `Innermost ts o` - after `ts`, the innermost group that is open is the one that `o` opens.
* `EndsOperand ts` - the last solid token of `ts` ends an operand.
* `Fits before t` - behind `before`, a comma or sign `t` is of the right kind.
* `Scanner.Orderly s` - what holds of the scanner after every move.

## Main results

* `Scanner.Orderly.move`, `Scanner.Orderly.scan` - one move, and so every scan, keeps order.
* `tokens_orderly` - **groups are nested, and commas and signs are told by what stands in front.**
-/

namespace ReportCompiler.Formula

/-! ### Nested groups -/

/-- The token opens a group: of a function, of brackets or of an array. -/
structure Token.IsOpener (o : Token) : Prop where
  /-- It is an opener. -/
  opener : o.subkind = .opener
  /-- There are three kinds of groups. -/
  kind : o.kind = .func ∨ o.kind = .paren ∨ o.kind = .array

/-- The token closes what the other one opens.  A brace closes arrays, and a round bracket
everything else. -/
structure Token.IsCloserOf (c o : Token) : Prop where
  /-- It is a closer. -/
  closer : c.subkind = .closer
  /-- It is of the kind of its opener. -/
  kind : c.kind = o.kind
  /-- Its text tells arrays from other groups. -/
  value : c.value = if o.kind = .array then "\x7d" else ")"

/-- The tokens are nested: every opener has its closer, every closer its opener, and what stands
between them is nested. -/
inductive Nested : List Token → Prop
  /-- No tokens. -/
  | nil : Nested []
  /-- A token that neither opens nor closes a group. -/
  | cons {t : Token} {ts : List Token} (hopener : t.subkind ≠ .opener)
    (hcloser : t.subkind ≠ .closer) (h : Nested ts) : Nested (t :: ts)
  /-- A group. -/
  | group {o c : Token} {inner ts : List Token} (ho : o.IsOpener) (hinner : Nested inner)
    (hc : c.IsCloserOf o) (h : Nested ts) : Nested (o :: inner ++ c :: ts)

theorem Nested.append {ts us : List Token} (h : Nested ts) (h' : Nested us) :
    Nested (ts ++ us) := by
  induction h with
  | nil => exact h'
  | cons hopener hcloser _ ih => exact .cons hopener hcloser ih
  | group ho hinner hc _ _ ih =>
    rw [List.append_assoc, List.cons_append]
    exact .group ho hinner hc ih

/-- A token that neither opens nor closes a group, by itself. -/
theorem nested_singleton {t : Token} (hopener : t.subkind ≠ .opener)
    (hcloser : t.subkind ≠ .closer) : Nested [t] :=
  .cons hopener hcloser .nil

/-! ### Open groups -/

/-- The innermost group that is open after the tokens is that of the opener: all groups behind it
are closed again. -/
def Innermost (ts : List Token) (o : Token) : Prop :=
  ∃ outer inner, ts = outer ++ o :: inner ∧ o.IsOpener ∧ Nested inner

/-- After the tokens the groups of these openers are open, the innermost first. -/
inductive Opens : List Token → List Token → Prop
  /-- No group is open. -/
  | nested {ts : List Token} (h : Nested ts) : Opens ts []
  /-- One more group is open than before its opener. -/
  | opener {ts us openers : List Token} {o : Token} (h : Opens ts openers) (ho : o.IsOpener)
    (hus : Nested us) : Opens (ts ++ o :: us) (o :: openers)

/-- The openers of the groups that are open, with one more token read. -/
def regroup (openers : List Token) (t : Token) : List Token :=
  if t.subkind = .opener then t :: openers
  else if t.subkind = .closer then openers.tail
  else openers

/-- Nested tokens leave the groups as they were. -/
theorem Nested.foldl_regroup {ts : List Token} (h : Nested ts) (openers : List Token) :
    ts.foldl regroup openers = openers := by
  induction h generalizing openers with
  | nil => rfl
  | cons hopener hcloser _ ih =>
    rw [List.foldl_cons, regroup, if_neg hopener, if_neg hcloser]
    exact ih openers
  | @group o c inner ts ho _ hc _ ihinner ih =>
    have hopen : regroup openers o = o :: openers := if_pos ho.opener
    have hclose : regroup (o :: openers) c = openers := by
      rw [regroup, if_neg (by simp [hc.closer]), if_pos hc.closer, List.tail_cons]
    rw [List.foldl_append, List.foldl_cons, List.foldl_cons, hopen, ihinner, hclose]
    exact ih openers

/-- The innermost open group can be told from the tokens, so that there is at most one. -/
theorem Innermost.head? {ts : List Token} {o : Token} (h : Innermost ts o) :
    (ts.foldl regroup []).head? = some o := by
  obtain ⟨outer, inner, rfl, ho, hinner⟩ := h
  rw [List.foldl_append, List.foldl_cons, regroup, if_pos ho.opener, hinner.foldl_regroup]
  rfl

namespace Opens

variable {ts us openers : List Token} {o c : Token}

theorem foldl_regroup (h : Opens ts openers) : ts.foldl regroup [] = openers := by
  induction h with
  | nested h => exact h.foldl_regroup []
  | opener _ ho hus ih =>
    rw [List.foldl_append, List.foldl_cons, ih, regroup, if_pos ho.opener, hus.foldl_regroup]

/-- Nested tokens open nothing. -/
theorem append (h : Opens ts openers) (hus : Nested us) : Opens (ts ++ us) openers := by
  cases h with
  | nested h => exact .nested (h.append hus)
  | opener h ho hvs =>
    rw [List.append_assoc, List.cons_append]
    exact .opener h ho (hvs.append hus)

/-- A closer closes the innermost group, which is then nested in what stands around it. -/
theorem close (h : Opens ts (o :: openers)) (hc : c.IsCloserOf o) : Opens (ts ++ [c]) openers := by
  cases h with
  | opener h ho hus =>
    rw [List.append_assoc]
    exact h.append (.group ho hus hc .nil)

/-- Where no group is open, the tokens are nested. -/
theorem nested_of_nil (h : Opens ts []) : Nested ts := by
  cases h with
  | nested h => exact h

theorem isOpener (h : Opens ts (o :: openers)) : o.IsOpener := by
  cases h with
  | opener _ ho _ => exact ho

/-- The innermost open group is the first of the open groups. -/
theorem innermost_iff (h : Opens ts openers) : Innermost ts o ↔ openers.head? = some o := by
  constructor
  · intro hinnermost
    rw [← h.foldl_regroup]
    exact hinnermost.head?
  · intro hhead
    cases h with
    | nested => cases hhead
    | opener h ho hus =>
      obtain rfl := Option.some.inj hhead
      exact ⟨_, _, rfl, ho, hus⟩

end Opens

/-! ### Commas and signs -/

/-- The innermost open group is that of a function or of an array. -/
def InsideList (ts : List Token) : Prop :=
  ∃ o, Innermost ts o ∧ (o.kind = .func ∨ o.kind = .array)

theorem Opens.insideList_iff {ts openers : List Token} (h : Opens ts openers) :
    InsideList ts ↔ ∃ o, openers.head? = some o ∧ (o.kind = .func ∨ o.kind = .array) := by
  simp only [InsideList, h.innermost_iff]

/-- The last solid token ends an operand: it is one, closes a group or is a percent sign. -/
def EndsOperand (ts : List Token) : Prop :=
  ∃ t, (solid ts).getLast? = some t ∧
    (t.kind = .operand ∨ t.subkind = .closer ∨ t.kind = .postfixOp)

/-- Behind the tokens `before`, the token is of the right kind if it is a comma or a sign. -/
structure Fits (before : List Token) (t : Token) : Prop where
  /-- A comma separates arguments in a call or an array, and is an operator elsewhere. -/
  comma : t.value = "," → (t.is .sep .arg ↔ InsideList before) ∧
    (t.is .infixOp .plain ↔ ¬ InsideList before)
  /-- A plus or minus is an infix operator behind an operand, and a sign in front elsewhere. -/
  sign : t.value = "+" ∨ t.value = "-" → (t.is .infixOp .plain ↔ EndsOperand before) ∧
    (t.is .prefixOp .plain ↔ ¬ EndsOperand before)
  /-- A comma that is not a token by itself is part of an operand or of the name of a function. -/
  inside : ',' ∈ t.value.toList → t.value = "," ∨ t.kind = .operand ∨ t.is .func .opener

/-- Every token of a list is of the right kind. -/
def AllFit (ts : List Token) : Prop :=
  ∀ before t after, ts = before ++ t :: after → Fits before t

theorem allFit_nil : AllFit [] := by
  intro before t after h
  simp at h

theorem AllFit.concat {ts : List Token} {t : Token} (h : AllFit ts) (ht : Fits ts t) :
    AllFit (ts ++ [t]) := by
  intro before u after heq
  rcases List.eq_nil_or_concat after with rfl | ⟨front, last, rfl⟩
  · -- the new token is the last one
    obtain ⟨rfl, hlast⟩ := List.append_inj' heq rfl
    obtain rfl := List.singleton_inj.mp hlast
    exact ht
  · rw [List.concat_eq_append, ← List.cons_append, ← List.append_assoc] at heq
    obtain ⟨hfront, -⟩ := List.append_inj' heq rfl
    exact h before u front hfront

/-- What is neither a comma nor a sign fits everywhere. -/
theorem fits_of_ne {before : List Token} {t : Token} (hcomma : t.value ≠ ",")
    (hplus : t.value ≠ "+") (hminus : t.value ≠ "-")
    (hinside : ',' ∈ t.value.toList → t.kind = .operand ∨ t.is .func .opener) : Fits before t where
  comma h := absurd h hcomma
  sign h := by
    rcases h with h | h
    · exact absurd h hplus
    · exact absurd h hminus
  inside h := Or.inr (hinside h)

/-- What holds no comma, plus or minus fits everywhere. -/
theorem fits_of_chars {before : List Token} {t : Token} (cs : List Char)
    (hvalue : t.value = String.ofList cs) (h : ∀ c ∈ cs, c ≠ ',' ∧ c ≠ '+' ∧ c ≠ '-') :
    Fits before t := by
  have hne : ∀ c, c = ',' ∨ c = '+' ∨ c = '-' → c ∉ t.value.toList := by
    intro c hc hmem
    rw [hvalue, String.toList_ofList] at hmem
    obtain ⟨hcomma, hplus, hminus⟩ := h c hmem
    rcases hc with rfl | rfl | rfl
    · exact hcomma rfl
    · exact hplus rfl
    · exact hminus rfl
  apply fits_of_ne
  · intro heq
    exact hne ',' (by simp) (by rw [heq]; decide)
  · intro heq
    exact hne '+' (by simp) (by rw [heq]; decide)
  · intro heq
    exact hne '-' (by simp) (by rw [heq]; decide)
  · intro hmem
    exact absurd hmem (hne ',' (by simp))

/-- An operand, or the name of a function with its bracket, does not begin like a comma or sign. -/
theorem fits_of_begins {before : List Token} {t : Token}
    (hbegins : ∀ c ∈ t.value.toList.head?, isTerminator c = false)
    (hkind : t.kind = .operand ∨ t.is .func .opener) : Fits before t := by
  have hne : ∀ c, isTerminator c → t.value ≠ String.ofList [c] := by
    intro c hc hvalue
    rw [hvalue, String.toList_ofList] at hbegins
    rw [hbegins c rfl] at hc
    cases hc
  exact fits_of_ne (hne ',' rfl) (hne '+' rfl) (hne '-' rfl) fun _ => hkind

namespace Scanner

variable {s s' : Scanner} {c : Char} {rest rest' : List Char}

theorem lastSolid?_eq (s : Scanner) : s.lastSolid? = (solid s.done.reverse).getLast? := by
  unfold lastSolid? solid
  rw [List.filter_reverse, List.getLast?_reverse, List.head?_filter]
  congr 1
  funext t
  rw [decide_not]
  rfl

/-- The scanner takes a plus or minus for an infix operator where an operand ends. -/
theorem signIsInfix_iff (s : Scanner) : s.signIsInfix ↔ EndsOperand s.done.reverse := by
  unfold signIsInfix EndsOperand
  rw [← lastSolid?_eq]
  cases s.lastSolid? with
  | none => simp
  | some t =>
    simp only [Option.some.injEq, Bool.or_eq_true, decide_eq_true_eq, exists_eq_left']
    exact or_comm

/-! ### Order -/

theorem operatorToken_subkind (s : Scanner) (c : Char) : (s.operatorToken c).subkind = .plain := by
  unfold operatorToken
  split
  case isTrue => rfl
  case isFalse => split <;> rfl

theorem separatorToken_subkind (s : Scanner) (c : Char) :
    (s.separatorToken c).subkind ≠ .opener ∧ (s.separatorToken c).subkind ≠ .closer := by
  unfold separatorToken
  split
  case isTrue => simp
  case isFalse =>
    split
    case h_1 => split <;> simp
    case h_2 => simp

/-- The token of an operator fits behind the tokens that are complete. -/
theorem fits_operatorToken (hc : c ∈ operatorChars) : Fits s.done.reverse (s.operatorToken c) := by
  have hcomma : c ≠ ',' := by
    rintro rfl
    exact absurd hc (by decide)
  unfold operatorToken
  by_cases hpercent : c = '%'
  · rw [if_pos hpercent]
    exact fits_of_chars ['%'] rfl (by simp)
  rw [if_neg hpercent]
  by_cases hsign : c = '+' ∨ c = '-'
  · rw [if_pos (by simpa using hsign)]
    refine ⟨?_, ?_, ?_⟩
    · intro hvalue
      have hchars := congrArg String.toList hvalue
      simp [hcomma] at hchars
    · -- the scanner looks for the end of an operand, as the rule asks
      intro _
      by_cases hinfix : s.signIsInfix
      · have hends := s.signIsInfix_iff.mp hinfix
        simp [Token.is, hinfix, hends]
      · have hends := mt s.signIsInfix_iff.mpr hinfix
        simp [Token.is, hinfix, hends]
    · intro hmem
      simp [Ne.symm hcomma] at hmem
  · rw [if_neg (by simpa using hsign)]
    obtain ⟨hplus, hminus⟩ := not_or.mp hsign
    refine fits_of_chars [c] rfl ?_
    intro d hd
    obtain rfl := List.mem_singleton.mp hd
    exact ⟨hcomma, hplus, hminus⟩

/-- The token of a separator fits behind the tokens that are complete, when the groups that are
open are those that these leave open. -/
theorem fits_separatorToken (hopens : Opens s.done.reverse s.groups) (hc : c = ';' ∨ c = ',') :
    Fits s.done.reverse (s.separatorToken c) := by
  rcases hc with rfl | rfl
  · exact fits_of_chars [';'] rfl (by simp)
  have hinside := hopens.insideList_iff
  unfold separatorToken
  rw [if_neg (by decide)]
  cases hgroups : s.groups with
  | nil =>
    rw [hgroups] at hinside
    refine ⟨fun _ => ?_, by simp, fun _ => Or.inl rfl⟩
    simp [Token.is, hinside]
  | cons o outer =>
    rw [hgroups] at hinside hopens
    by_cases hparen : o.kind = .paren
    · simp only [if_pos hparen]
      refine ⟨fun _ => ?_, by simp, fun _ => Or.inl rfl⟩
      simp [Token.is, hinside, hparen]
    · simp only [if_neg hparen]
      have hlist : o.kind = .func ∨ o.kind = .array := by
        rcases hopens.isOpener.kind with hfunc | hkind | harray
        · exact Or.inl hfunc
        · exact absurd hkind hparen
        · exact Or.inr harray
      refine ⟨fun _ => ?_, by simp, fun _ => Or.inl rfl⟩
      simp [Token.is, hinside, hlist]

/-- Text behind an operand does not change how it begins. -/
theorem head?_append_of_ne_empty {v w : String} (h : v ≠ "") :
    (v ++ w).toList.head? = v.toList.head? := by
  obtain ⟨c, cs, hv⟩ := List.exists_cons_of_ne_nil (mt String.toList_eq_nil_iff.mp h)
  rw [String.toList_append, hv]
  rfl

/-- What holds of the scanner after every move. -/
structure Orderly (s : Scanner) : Prop where
  /-- No character that would end the operand begins it. -/
  begins : ∀ c ∈ s.pending.toList.head?, isTerminator c = false
  /-- The groups that are open are those that the complete tokens leave open. -/
  opens : Opens s.done.reverse s.groups
  /-- The complete tokens are of the right kinds. -/
  fits : AllFit s.done.reverse

theorem orderly_start : start.Orderly where
  begins := by simp [start]
  opens := .nested .nil
  fits := allFit_nil

namespace Orderly

variable {t o : Token} {outer : List Token}

/-- One more token that neither opens nor closes a group. -/
theorem emit (h : s.Orderly) (hopener : t.subkind ≠ .opener) (hcloser : t.subkind ≠ .closer)
    (ht : Fits s.done.reverse t) : (s.emit t).Orderly where
  begins := h.begins
  opens := by
    show Opens (t :: s.done).reverse s.groups
    rw [List.reverse_cons]
    exact h.opens.append (nested_singleton hopener hcloser)
  fits := by
    show AllFit (t :: s.done).reverse
    rw [List.reverse_cons]
    exact h.fits.concat ht

/-- The operand is no longer gathered. -/
theorem cleared (h : s.Orderly) : Orderly { s with pending := "" } :=
  ⟨by simp, h.opens, h.fits⟩

theorem operandSubkind_ne (v : String) :
    Token.operandSubkind v ≠ .opener ∧ Token.operandSubkind v ≠ .closer := by
  unfold Token.operandSubkind
  split
  · simp
  · simp
  · split
    · simp
    · split <;> simp

theorem emitOperand {v : String} (h : s.Orderly)
    (hv : ∀ c ∈ v.toList.head?, isTerminator c = false) : (s.emit (.operand v)).Orderly :=
  h.emit (operandSubkind_ne v).1 (operandSubkind_ne v).2 (fits_of_begins hv (Or.inl rfl))

theorem flush (h : s.Orderly) : s.flush.Orderly := by
  unfold Scanner.flush
  split
  case isTrue => exact h
  case isFalse => exact h.cleared.emitOperand h.begins

theorem openGroup (h : s.Orderly) (ht : t.IsOpener) (hfits : Fits s.done.reverse t) :
    (s.openGroup t).Orderly where
  begins := h.begins
  opens := by
    show Opens (t :: s.done).reverse (t :: s.groups)
    rw [List.reverse_cons]
    exact .opener h.opens ht .nil
  fits := by
    show AllFit (t :: s.done).reverse
    rw [List.reverse_cons]
    exact h.fits.concat hfits

theorem close (h : s.Orderly) (hgroups : s.groups = o :: outer) (ht : t.IsCloserOf o)
    (hfits : Fits s.done.reverse t) : (Scanner.emit { s with groups := outer } t).Orderly where
  begins := h.begins
  opens := by
    have hopens := h.opens
    rw [hgroups] at hopens
    show Opens (t :: s.done).reverse outer
    rw [List.reverse_cons]
    exact hopens.close ht
  fits := by
    show AllFit (t :: s.done).reverse
    rw [List.reverse_cons]
    exact h.fits.concat hfits

theorem gather {cs : List Char} (h : s.Orderly)
    (hcs : s.pending = "" → ∀ c ∈ cs.head?, isTerminator c = false) : (s.gather cs).Orderly where
  begins := by
    show ∀ c ∈ (s.pending ++ String.ofList cs).toList.head?, isTerminator c = false
    intro c hc
    by_cases hpending : s.pending = ""
    · exact hcs hpending c (by simpa [hpending] using hc)
    · -- the operand keeps its first character
      rw [head?_append_of_ne_empty hpending] at hc
      exact h.begins c hc
  opens := h.opens
  fits := h.fits

/-- **Every move keeps order.** -/
theorem move (h : s.Orderly) (hmove : s.Move s') : s'.Orderly := by
  cases hmove with
  | gather hcs => exact h.gather hcs
  | operand _ hv => exact h.emitOperand hv
  | blank hblank =>
    refine h.flush.emit (by simp) (by simp) (fits_of_chars _ rfl ?_)
    intro c hc
    have hc := hblank c hc
    refine ⟨?_, ?_, ?_⟩ <;>
      · rintro rfl
        cases hc
  | @pair c d hpair =>
    have hchars : (c = '>' ∧ d = '=') ∨ (c = '<' ∧ d = '=') ∨ (c = '<' ∧ d = '>') := by
      simpa [isPairOperator, or_assoc] using hpair
    refine h.flush.emit (by simp) (by simp) (fits_of_chars _ rfl ?_)
    rcases hchars with ⟨rfl, rfl⟩ | ⟨rfl, rfl⟩ | ⟨rfl, rfl⟩ <;> simp
  | operator hc =>
    have hplain := operatorToken_subkind s.flush
    exact h.flush.emit (by simp [hplain]) (by simp [hplain]) (fits_operatorToken hc)
  | openArray =>
    exact h.flush.openGroup ⟨rfl, by simp⟩ (fits_of_chars ['{'] rfl (by simp))
  | openParen =>
    exact h.openGroup ⟨rfl, by simp⟩ (fits_of_chars ['('] rfl (by simp))
  | openCall hpending =>
    refine h.cleared.openGroup ⟨rfl, by simp⟩ (fits_of_begins ?_ (Or.inr rfl))
    show ∀ c ∈ (s.pending ++ "(").toList.head?, isTerminator c = false
    rw [head?_append_of_ne_empty hpending]
    exact h.begins
  | @close o outer hgroups =>
    rw [← flush_groups] at hgroups
    apply h.flush.close hgroups
    · refine ⟨rfl, rfl, ?_⟩
      unfold closerOf
      split <;> rfl
    · refine fits_of_chars _ rfl ?_
      unfold closerOf
      split <;> simp
  | separator hc =>
    obtain ⟨hopener, hcloser⟩ := separatorToken_subkind s.flush _
    exact h.flush.emit hopener hcloser (fits_separatorToken h.flush.opens hc)

/-- **A whole scan keeps order.** -/
theorem scan {cs : List Char} (h : s.Orderly) (hscan : s.scan cs = .ok s') : s'.Orderly :=
  invariant_of_scan (fun _ _ h hmove => h.move hmove) (fun _ h => h.flush) h hscan

end Orderly

end Scanner

/-! ### Whole formulas -/

/-- **Groups are nested, and commas and signs are told by what stands in front of them.**  In the
tokens of a text every closer closes, with the right bracket, the innermost group that is open, and
no group is left open.  When the text is a formula, a comma outside operands separates arguments if
the innermost open group is a function or an array, and is an operator otherwise; a plus or minus is
an infix operator if the last solid token in front is an operand, a closer or a percent sign, and a
sign in front otherwise.  A text that is no formula is a single literal. -/
theorem tokens_orderly (formula : String) (ts : List Token) (h : tokenize formula = .ok ts) :
    Nested ts ∧ (formula.toList.head? = some '=' → AllFit ts) ∧
      (formula.toList.head? ≠ some '=' →
        ts = if formula = "" then [] else [⟨.literal, .plain, formula⟩]) := by
  by_cases hhead : formula.toList.head? = some '='
  · obtain ⟨body, hbody⟩ := List.head?_eq_some_iff.mp hhead
    rw [tokenize, hbody] at h
    simp only at h
    cases hscan : Scanner.start.scan body with
    | error fault => simp [hscan] at h
    | ok s =>
      have horderly := Scanner.orderly_start.scan hscan
      simp only [hscan] at h
      split at h
      case h_2 => cases h
      case h_1 hgroups =>
        obtain rfl := Except.ok.inj h
        have hopens := horderly.opens
        rw [hgroups] at hopens
        exact ⟨hopens.nested_of_nil, fun _ => horderly.fits, fun hne => absurd hhead hne⟩
  · rw [tokenize_of_head hhead] at h
    obtain rfl := Except.ok.inj h
    refine ⟨?_, fun heq => absurd heq hhead, fun _ => rfl⟩
    split
    case isTrue => exact .nil
    case isFalse => exact nested_singleton (by simp) (by simp)

/-- A sign in front of a call, an array inside it with a sign behind a comma, a union of references
in brackets, a percent sign and an exponent in front of minus signs, and commas inside operands. -/
def signedFormula : String :=
  "=-SUM(\x7b1,-2;3\x7d,(A1,B1) -5%-1.5E-3,'a,b'!C1&\"x,+\")+2"

/-- The formula falls into twenty-nine tokens, which are nested and of the right kinds. -/
theorem tokens_orderly_signedFormula :
    ∃ ts, tokenize signedFormula = .ok ts ∧ ts.length = 29 ∧ Nested ts ∧ AllFit ts := by
  have hlength : (tokenize signedFormula).toOption.map List.length = some 29 := by decide +kernel
  cases hts : tokenize signedFormula with
  | error fault =>
    rw [hts] at hlength
    cases hlength
  | ok ts =>
    rw [hts] at hlength
    obtain ⟨hnested, hfits, -⟩ := tokens_orderly signedFormula ts hts
    exact ⟨ts, rfl, Option.some.inj hlength, hnested, hfits (by decide)⟩

end ReportCompiler.Formula
