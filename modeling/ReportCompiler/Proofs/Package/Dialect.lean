import ReportCompiler.Formula.Scanner
import ReportCompiler.Package.Formula
import ReportCompiler.Workbook.Names

/-!
# The open dialect

A formula of the open dialect has a mark in front of each function and semicolons between
arguments.  Only there may loading it change anything: texts, quoted sheet names, references in
square brackets and all other operands belong to what the formula says.  `rewritten` is that change,
made by someone who keeps track of where in the formula each character stands.  `plainChars` keeps
track of less.  It counts double quotes, and takes every mark and every semicolon behind an even
number of them for one to change.  So it also changes the marks and semicolons inside quoted sheet
names and square brackets and the marks that are a part of a name, and a double quote inside a sheet
name turns the count around.

## Main definitions

* `Part`, `Place`, `placeAfter` - where in a formula a character stands.
* `beginsCall`, `Place.isDroppable` - the marks that go: those in front of a function.
* `rewritten` - a formula with its marks dropped and with commas, and with all else kept.
* `CountsRight`, `CountTellsRight` - what is known of the double quotes tells right, from a place on
  and in a whole formula.

## Main results

* `rewritten_enclosed` - texts, quoted sheet names and square brackets are kept.
* `plainChars_eq_rewritten_iff` - from anywhere in a formula, the two rewritings agree exactly if the
  count tells right from there on.
* `plainFormula_eq_rewritten_iff` - the same for whole formulas, and nothing else is changed.
-/

namespace ReportCompiler.Package

/-! ### Where a character stands -/

/-- The parts of a formula. -/
inductive Part
  /-- Among operators, names and references. -/
  | outside
  /-- In a text. -/
  | text
  /-- In a quoted sheet name. -/
  | sheetName
  /-- In square brackets, with some more brackets around. -/
  | brackets (around : Nat)
  deriving DecidableEq, Repr

/-- The part after one more character.  A doubled quote leaves a part and enters it again. -/
def Part.next : Part → Char → Part
  | outside, c =>
    if c = '"' then text else if c = '\'' then sheetName else if c = '[' then brackets 0
    else outside
  | text, c => if c = '"' then outside else text
  | sheetName, c => if c = '\'' then outside else sheetName
  | brackets 0, c => if c = '[' then brackets 1 else if c = ']' then outside else brackets 0
  | brackets (n + 1), c =>
    if c = '[' then brackets (n + 2) else if c = ']' then brackets n else brackets (n + 1)

/-- A place in a formula. -/
structure Place where
  /-- The part that it lies in. -/
  part : Part
  /-- No operand has begun. -/
  isFresh : Bool
  deriving DecidableEq, Repr

/-- The place after one more character.  An operand ends with a separator, an operator, a blank or a
bracket, and a text is an operand of its own. -/
def Place.next (p : Place) (c : Char) : Place where
  part := p.part.next c
  isFresh := match p.part with
    | .outside => Formula.isTerminator c || c = '(' || c = '{' || c = '\n'
    | .text => true
    | .sheetName | .brackets _ => false

/-- The place where a formula begins. -/
def Place.start : Place :=
  ⟨.outside, true⟩

/-- The place after the beginning of a formula. -/
def placeAfter (before : List Char) : Place :=
  before.foldl Place.next .start

/-! ### The rewriting -/

/-- A text begins with the name of a function and its bracket. -/
def beginsCall (cs : List Char) : Bool :=
  !(cs.takeWhile isNameChar).isEmpty && (cs.dropWhile isNameChar).head? = some '('

/-- A mark at this place, with a text behind it, belongs to a function and not to an operand. -/
def Place.isDroppable (p : Place) (rest : List Char) : Bool :=
  p.part = .outside && p.isFresh && beginsCall rest

/-- One character of the rewritten formula.  Semicolons outside all parts are commas. -/
def Place.rewrite (p : Place) (c : Char) : Char :=
  if c = ';' && p.part = .outside then ',' else c

/-- A formula from a place on, with the marks in front of functions dropped and with commas, and
with all else kept. -/
def rewritten (p : Place) : List Char → List Char
  | [] => []
  | a :: b :: c :: rest =>
    if isMark a b c && p.isDroppable rest then rewritten (((p.next a).next b).next c) rest
    else p.rewrite a :: rewritten (p.next a) (b :: c :: rest)
  | c :: rest => p.rewrite c :: rewritten (p.next c) rest

/-- A text begins with a mark. -/
def beginsMark : List Char → Bool
  | a :: b :: c :: _ => isMark a b c
  | _ => false

theorem rewritten_mark {p : Place} {a b c : Char} {rest : List Char} (hmark : isMark a b c = true)
    (hdrop : p.isDroppable rest = true) :
    rewritten p (a :: b :: c :: rest) = rewritten (((p.next a).next b).next c) rest := by
  rw [rewritten, if_pos (by simp [hmark, hdrop])]

theorem rewritten_cons {p : Place} {a : Char} {cs : List Char}
    (h : beginsMark (a :: cs) = true → p.isDroppable (cs.drop 2) = false) :
    rewritten p (a :: cs) = p.rewrite a :: rewritten (p.next a) cs := by
  match cs with
  | [] | [_] => rfl
  | b :: c :: rest =>
    rw [rewritten, if_neg]
    intro hdrop
    rw [Bool.and_eq_true] at hdrop
    exact absurd (h hdrop.1) (by simp [hdrop.2])

theorem plainChars_mark {a b c : Char} {rest : List Char} (hmark : isMark a b c = true) :
    plainChars false (a :: b :: c :: rest) = plainChars false rest := by
  rw [plainChars, if_pos (by simp [hmark])]

theorem plainChars_cons {quoted : Bool} {a : Char} {cs : List Char}
    (h : quoted = true ∨ beginsMark (a :: cs) = false) :
    plainChars quoted (a :: cs) = plainChar quoted a :: plainChars (quoted ^^ (a == '"')) cs := by
  match cs with
  | [] | [_] => rfl
  | b :: c :: rest =>
    rw [plainChars, if_neg]
    rcases h with rfl | h
    · simp
    · simpa [beginsMark] using fun _ => h

/-! ### What the rewriting keeps -/

/-- Inside a part every character is kept. -/
theorem rewritten_inside {p : Place} {a : Char} {cs : List Char} (hp : p.part ≠ .outside) :
    rewritten p (a :: cs) = a :: rewritten (p.next a) cs := by
  rw [rewritten_cons fun _ => by simp [Place.isDroppable, hp]]
  simp [Place.rewrite, hp]

/-- The characters that open a part. -/
def isOpening (c : Char) : Bool :=
  c = '"' || c = '\'' || c = '['

theorem isOpening_cases {c : Char} (h : isOpening c = true) : c = '"' ∨ c = '\'' ∨ c = '[' := by
  simpa [isOpening, or_assoc] using h

/-- A mark has no character that opens a part. -/
theorem beginsMark_opening {c : Char} {cs : List Char} (h : isOpening c = true) (a b : Char) :
    beginsMark (c :: cs) = false ∧ beginsMark (b :: c :: cs) = false ∧
      beginsMark (a :: b :: c :: cs) = false := by
  obtain rfl | rfl | rfl := isOpening_cases h <;>
    rcases cs with _ | ⟨d, _ | ⟨e, cs⟩⟩ <;> simp [beginsMark, isMark]

/-- Outside all parts a character that opens one is kept. -/
theorem rewritten_opening {p : Place} {c : Char} {cs : List Char} (h : isOpening c = true) :
    rewritten p (c :: cs) = c :: rewritten (p.next c) cs := by
  rw [rewritten_cons (by simp [(beginsMark_opening h c c).1])]
  obtain rfl | rfl | rfl := isOpening_cases h <;> simp [Place.rewrite]

/-- A call does not reach beyond a character that opens a part. -/
theorem beginsCall_append {c : Char} {cs : List Char} (h : isOpening c = true) (xs : List Char) :
    beginsCall (xs ++ c :: cs) = beginsCall xs := by
  have hc : isNameChar c = false ∧ c ≠ '(' := by
    obtain rfl | rfl | rfl := isOpening_cases h <;> decide
  have hname : (xs ++ c :: cs).takeWhile isNameChar = xs.takeWhile isNameChar := by
    induction xs <;> simp_all [List.takeWhile_cons]
  have hbracket : ((xs ++ c :: cs).dropWhile isNameChar).head? = some '(' ↔
      (xs.dropWhile isNameChar).head? = some '(' := by
    induction xs with
    | nil => simp [hc]
    | cons x xs ih =>
      cases hx : isNameChar x <;> simp_all
  rw [beginsCall, beginsCall, hname, decide_eq_decide.mpr hbracket]

/-- The rewriting may be cut in front of a part. -/
theorem rewritten_append {c : Char} {cs : List Char} (h : isOpening c = true) (p : Place)
    (xs : List Char) :
    rewritten p (xs ++ c :: cs) = rewritten p xs ++ rewritten (xs.foldl Place.next p) (c :: cs) := by
  fun_induction rewritten p xs with
  | case1 => rfl
  | case2 p a b d rest hdrop ih =>
    rw [Bool.and_eq_true] at hdrop
    refine (rewritten_mark hdrop.1 ?_).trans ih
    simpa [Place.isDroppable, beginsCall_append h] using hdrop.2
  | case3 p a b d rest hdrop ih =>
    have hkept : beginsMark (a :: ((b :: d :: rest) ++ c :: cs)) = true →
        p.isDroppable (((b :: d :: rest) ++ c :: cs).drop 2) = false := by
      intro hmark
      have hkept : p.isDroppable rest = false := by
        simpa [show isMark a b d = true from hmark] using hdrop
      simpa [Place.isDroppable, beginsCall_append h] using hkept
    rw [List.cons_append, rewritten_cons hkept, ih]
    rfl
  | case4 p a rest hshort ih =>
    have hmark : beginsMark (a :: (rest ++ c :: cs)) = false := by
      match rest with
      | [] => exact (beginsMark_opening h a a).2.1
      | [b] => exact (beginsMark_opening h a b).2.2
      | b :: d :: rest => exact absurd rfl (hshort b d rest)
    rw [List.cons_append, rewritten_cons (by simp [hmark]), ih]
    rfl

/-- The part that a quote opens. -/
def quotedPart (delim : Char) : Part :=
  if delim = '"' then .text else .sheetName

theorem next_quotedPart {delim c : Char} (h : delim = '"' ∨ delim = '\'') :
    (quotedPart delim).next c = if c = delim then .outside else quotedPart delim := by
  rcases h with rfl | rfl <;> rfl

theorem next_outside_delim {delim : Char} (h : delim = '"' ∨ delim = '\'') :
    Part.outside.next delim = quotedPart delim := by
  rcases h with rfl | rfl <;> rfl

theorem quotedPart_ne_outside (delim : Char) : quotedPart delim ≠ .outside := by
  unfold quotedPart
  split <;> simp

/-- Up to its end a text or quoted sheet name is kept, doubled quotes included. -/
theorem rewritten_splitQuoted {delim : Char} {cs inner rest : List Char} {p : Place}
    (hdelim : delim = '"' ∨ delim = '\'') (hp : p.part = quotedPart delim)
    (h : Formula.splitQuoted delim cs = some (inner, rest)) :
    rewritten p cs = inner ++ rewritten (inner.foldl Place.next p) rest := by
  have hopening : isOpening delim = true := by
    rcases hdelim with rfl | rfl <;> rfl
  have hne : p.part ≠ .outside := hp ▸ quotedPart_ne_outside delim
  fun_induction Formula.splitQuoted delim cs generalizing inner p with
  | case1 => simp at h
  | case2 tail ih =>
    obtain ⟨⟨inner, rest⟩, hsplit, heq⟩ := Option.map_eq_some_iff.mp h
    simp only [Function.comp, Formula.consFirst, Prod.mk.injEq] at heq
    obtain ⟨rfl, rfl⟩ := heq
    have hleft : (p.next delim).part = .outside := by
      rw [Place.next, hp, next_quotedPart hdelim, if_pos rfl]
    have hagain : ((p.next delim).next delim).part = quotedPart delim := by
      rw [Place.next, hleft, next_outside_delim hdelim]
    rw [rewritten_inside hne, rewritten_opening hopening,
      ih hagain hsplit (hagain ▸ quotedPart_ne_outside delim)]
    rfl
  | case3 | case4 =>
    simp only [Option.some.injEq, Prod.mk.injEq] at h
    obtain ⟨rfl, rfl⟩ := h
    exact rewritten_inside hne
  | case5 c tail hc ih =>
    obtain ⟨⟨inner, rest⟩, hsplit, heq⟩ := Option.map_eq_some_iff.mp h
    simp only [Formula.consFirst, Prod.mk.injEq] at heq
    obtain ⟨rfl, rfl⟩ := heq
    have hstill : (p.next c).part = quotedPart delim := by
      rw [Place.next, hp, next_quotedPart hdelim, if_neg hc]
    rw [rewritten_inside hne, ih hstill hsplit (hstill ▸ quotedPart_ne_outside delim)]
    rfl

theorem next_brackets (around : Nat) (c : Char) :
    (Part.brackets around).next c =
      if c = '[' then .brackets (around + 1)
      else if c = ']' then if around = 0 then .outside else .brackets (around - 1)
      else .brackets around := by
  cases around <;> rfl

/-- Up to their end square brackets are kept, with those inside them. -/
theorem rewritten_splitBrackets {depth : Nat} {cs inner rest : List Char} {p : Place}
    (hdepth : 0 < depth) (hp : p.part = .brackets (depth - 1))
    (h : Formula.splitBrackets depth cs = some (inner, rest)) :
    rewritten p cs = inner ++ rewritten (inner.foldl Place.next p) rest := by
  fun_induction Formula.splitBrackets depth cs generalizing inner p with
  | case1 => simp at h
  | case2 depth tail ih =>
    obtain ⟨⟨inner, rest⟩, hsplit, heq⟩ := Option.map_eq_some_iff.mp h
    simp only [Formula.consFirst, Prod.mk.injEq] at heq
    obtain ⟨rfl, rfl⟩ := heq
    have hdeeper : (p.next '[').part = .brackets (depth + 1 - 1) := by
      rw [Place.next, hp, next_brackets, if_pos rfl, Nat.sub_add_cancel hdepth, Nat.add_sub_cancel]
    rw [rewritten_inside (by simp [hp]), ih (Nat.succ_pos depth) hdeeper hsplit]
    rfl
  | case3 =>
    simp only [Option.some.injEq, Prod.mk.injEq] at h
    obtain ⟨rfl, rfl⟩ := h
    exact rewritten_inside (by simp [hp])
  | case4 depth tail _ hinner ih =>
    obtain ⟨⟨inner, rest⟩, hsplit, heq⟩ := Option.map_eq_some_iff.mp h
    simp only [Formula.consFirst, Prod.mk.injEq] at heq
    obtain ⟨rfl, rfl⟩ := heq
    have hup : (p.next ']').part = .brackets (depth - 1 - 1) := by
      rw [Place.next, hp, next_brackets, if_neg (by decide), if_pos rfl, if_neg (by omega)]
    rw [rewritten_inside (by simp [hp]), ih (by omega) hup hsplit]
    rfl
  | case5 depth c tail hopen hclose ih =>
    obtain ⟨⟨inner, rest⟩, hsplit, heq⟩ := Option.map_eq_some_iff.mp h
    simp only [Formula.consFirst, Prod.mk.injEq] at heq
    obtain ⟨rfl, rfl⟩ := heq
    have hstill : (p.next c).part = .brackets (depth - 1) := by
      rw [Place.next, hp, next_brackets, if_neg hopen, if_neg hclose]
    rw [rewritten_inside (by simp [hp]), ih hdepth hstill hsplit]
    rfl

/-- The rest of the part that a character opens, and the text after it. -/
def splitPart? (opening : Char) (cs : List Char) : Option (List Char × List Char) :=
  if opening = '[' then Formula.splitBrackets 1 cs
  else if opening = '"' || opening = '\'' then Formula.splitQuoted opening cs
  else none

theorem rewritten_splitPart {opening : Char} {cs inner rest : List Char} {p : Place}
    (hp : p.part = Part.outside.next opening) (h : splitPart? opening cs = some (inner, rest)) :
    isOpening opening = true ∧
      rewritten p cs = inner ++ rewritten (inner.foldl Place.next p) rest := by
  unfold splitPart? at h
  split at h
  case isTrue hbracket =>
    subst hbracket
    exact ⟨rfl, rewritten_splitBrackets Nat.one_pos hp h⟩
  case isFalse =>
    split at h
    case isTrue hquote =>
      have hdelim : opening = '"' ∨ opening = '\'' := by simpa using hquote
      refine ⟨by rcases hdelim with rfl | rfl <;> rfl, ?_⟩
      exact rewritten_splitQuoted hdelim (hp.trans (next_outside_delim hdelim)) h
    case isFalse => simp at h

/-- **Texts, quoted sheet names and square brackets are kept.** -/
theorem rewritten_enclosed {p : Place} {before cs inner rest : List Char} {opening : Char}
    (houtside : (before.foldl Place.next p).part = .outside)
    (h : splitPart? opening cs = some (inner, rest)) :
    rewritten p (before ++ opening :: cs) = rewritten p before ++ opening :: inner ++
      rewritten ((before ++ opening :: inner).foldl Place.next p) rest := by
  have hnext : ((before.foldl Place.next p).next opening).part = Part.outside.next opening := by
    rw [Place.next, houtside]
  obtain ⟨hopening, hkept⟩ := rewritten_splitPart hnext h
  rw [rewritten_append hopening, rewritten_opening hopening, hkept]
  simp

/-! ### Counting quotes -/

/-- Whether the number of double quotes is odd, after one more character. -/
def flipAt (quoted : Bool) (c : Char) : Bool :=
  quoted ^^ (c == '"')

theorem flipAt_of_ne {quoted : Bool} {c : Char} (h : c ≠ '"') : flipAt quoted c = quoted := by
  rw [flipAt, beq_false_of_ne h, Bool.xor_false]

theorem foldl_flipAt_eq_false_iff (quoted : Bool) (cs : List Char) :
    cs.foldl flipAt quoted = false ↔ (cs.count '"' + quoted.toNat) % 2 = 0 := by
  induction cs generalizing quoted with
  | nil => cases quoted <;> simp
  | cons c cs ih =>
    rw [List.foldl_cons, ih]
    by_cases hc : c = '"'
    · subst hc
      have hflip : (flipAt quoted '"').toNat = 1 - quoted.toNat := by cases quoted <;> rfl
      have hle := quoted.toNat_le
      rw [hflip, List.count_cons_self]
      omega
    · rw [flipAt_of_ne hc, List.count_cons_of_ne hc]

/-- What is known of the double quotes tells right at a place: a semicolon or mark there is changed
exactly if it has to be. -/
def TellsRight (p : Place) (quoted : Bool) (after : List Char) : Prop :=
  (after.head? = some ';' → (p.part = .outside ↔ quoted = false)) ∧
    (beginsMark after = true → (p.isDroppable (after.drop 3) = true ↔ quoted = false))

/-- What is known of the double quotes tells right from a place on. -/
def CountsRight (p : Place) (quoted : Bool) (cs : List Char) : Prop :=
  ∀ before after, cs = before ++ after →
    TellsRight (before.foldl Place.next p) (before.foldl flipAt quoted) after

theorem countsRight_nil (p : Place) (quoted : Bool) : CountsRight p quoted [] := by
  intro before after h
  obtain ⟨rfl, rfl⟩ := List.nil_eq_append_iff.mp h
  exact ⟨by simp, by simp [beginsMark]⟩

theorem countsRight_cons {p : Place} {quoted : Bool} {c : Char} {cs : List Char} :
    CountsRight p quoted (c :: cs) ↔
      TellsRight p quoted (c :: cs) ∧ CountsRight (p.next c) (flipAt quoted c) cs := by
  constructor
  · intro h
    refine ⟨h [] (c :: cs) rfl, ?_⟩
    rintro before after rfl
    exact h (c :: before) after rfl
  · rintro ⟨here, later⟩ before after h
    cases before with
    | nil =>
      obtain rfl : c :: cs = after := h
      exact here
    | cons d before =>
      obtain ⟨rfl, rfl⟩ := List.cons_eq_cons.mp h
      exact later before after rfl

/-- Induction along `plainChars`: a mark outside double quotes is one step, and so is any other
character. -/
@[elab_as_elim]
theorem plainChars_induction {motive : Bool → List Char → Prop} (quoted : Bool) (cs : List Char)
    (nil : ∀ quoted, motive quoted [])
    (mark : ∀ a b c rest, isMark a b c = true → motive false rest →
      motive false (a :: b :: c :: rest))
    (char : ∀ quoted a cs, (quoted = true ∨ beginsMark (a :: cs) = false) →
      motive (flipAt quoted a) cs → motive quoted (a :: cs)) :
    motive quoted cs := by
  fun_induction plainChars quoted cs with
  | case1 quoted => exact nil quoted
  | case2 quoted a b c rest h ih =>
    simp only [Bool.and_eq_true, Bool.not_eq_true'] at h
    obtain ⟨rfl, hmark⟩ := h
    exact mark a b c rest hmark ih
  | case3 quoted a b c rest h ih =>
    refine char quoted a (b :: c :: rest) ?_ ih
    cases quoted <;> simp_all [beginsMark]
  | case4 quoted a rest h ih =>
    refine char quoted a rest (.inr ?_) ih
    match rest with
    | [] | [_] => rfl
    | b :: c :: rest => exact absurd rfl (h b c rest)

/-! ### Runs of letters that marks have -/

/-- A mark may have the character. -/
def isMarkLetter (c : Char) : Bool :=
  c.toLower = 'o' || c.toLower = 'f' || c = ':'

/-- The number of such characters that a text begins with. -/
def lead (cs : List Char) : Nat :=
  (cs.takeWhile isMarkLetter).length

theorem lead_cons_of_pos {c : Char} {cs : List Char} (h : isMarkLetter c = true) :
    lead (c :: cs) = lead cs + 1 := by
  simp [lead, h]

theorem lead_cons_of_neg {c : Char} {cs : List Char} (h : isMarkLetter c = false) :
    lead (c :: cs) = 0 := by
  simp [lead, h]

theorem isMarkLetter_of_isMark {a b c : Char} (h : isMark a b c = true) :
    isMarkLetter a = true ∧ isMarkLetter b = true ∧ isMarkLetter c = true := by
  simp only [isMark, Bool.and_eq_true, decide_eq_true_eq] at h
  simp [isMarkLetter, h.1.1, h.1.2, h.2]

theorem lead_mark {a b c : Char} {cs : List Char} (h : isMark a b c = true) :
    lead (a :: b :: c :: cs) = lead cs + 3 := by
  obtain ⟨ha, hb, hc⟩ := isMarkLetter_of_isMark h
  rw [lead_cons_of_pos ha, lead_cons_of_pos hb, lead_cons_of_pos hc]

theorem ne_of_isMarkLetter {c d : Char} (hc : isMarkLetter c = true)
    (hd : isMarkLetter d = false) : c ≠ d := by
  rintro rfl
  simp [hc] at hd

/-- After a mark neither of its other two characters begins one. -/
theorem beginsMark_tail {a b c : Char} (h : isMark a b c = true) (rest : List Char) :
    beginsMark (b :: c :: rest) = false ∧ beginsMark (c :: rest) = false := by
  simp only [isMark, Bool.and_eq_true, decide_eq_true_eq] at h
  obtain ⟨⟨-, hb⟩, rfl⟩ := h
  constructor
  · cases rest <;> simp [beginsMark, isMark, hb]
  · rcases rest with _ | ⟨d, _ | ⟨e, rest⟩⟩ <;> simp [beginsMark, isMark]

theorem flipAt_of_isMarkLetter {quoted : Bool} {c : Char} (h : isMarkLetter c = true) :
    flipAt quoted c = quoted :=
  flipAt_of_ne (ne_of_isMarkLetter h (by decide))

theorem rewrite_of_isMarkLetter {p : Place} {c : Char} (h : isMarkLetter c = true) :
    p.rewrite c = c := by
  simp [Place.rewrite, ne_of_isMarkLetter h (d := ';') (by decide)]

/-- Neither semicolons nor commas are letters of a mark. -/
theorem isMarkLetter_comma (outside : Bool) (c : Char) :
    isMarkLetter (if c = ';' && outside then ',' else c) = isMarkLetter c := by
  split
  case isTrue h =>
    simp only [Bool.and_eq_true, decide_eq_true_eq] at h
    rw [h.1]
    rfl
  case isFalse => rfl

theorem isMarkLetter_plainChar (quoted : Bool) (c : Char) :
    isMarkLetter (plainChar quoted c) = isMarkLetter c :=
  isMarkLetter_comma (!quoted) c

theorem isMarkLetter_rewrite (p : Place) (c : Char) :
    isMarkLetter (p.rewrite c) = isMarkLetter c :=
  isMarkLetter_comma (p.part = .outside) c

theorem lead_cons_le_lead_cons {c d : Char} {cs ds : List Char}
    (h : isMarkLetter c = isMarkLetter d) (hle : isMarkLetter d = true → lead cs ≤ lead ds) :
    lead (c :: cs) ≤ lead (d :: ds) := by
  cases hd : isMarkLetter d with
  | false =>
    rw [lead_cons_of_neg (h.trans hd)]
    exact Nat.zero_le _
  | true =>
    rw [lead_cons_of_pos (h.trans hd), lead_cons_of_pos hd]
    exact Nat.succ_le_succ (hle hd)

theorem lead_rewritten_le (p : Place) (cs : List Char) : lead (rewritten p cs) ≤ lead cs := by
  fun_induction rewritten p cs with
  | case1 => exact Nat.le_refl _
  | case2 p a b c rest h ih =>
    rw [Bool.and_eq_true] at h
    rw [lead_mark h.1]
    omega
  | case3 p a _ _ _ _ ih | case4 p a _ _ ih =>
    exact lead_cons_le_lead_cons (isMarkLetter_rewrite p a) fun _ => ih

/-- Between double quotes nothing is dropped. -/
theorem lead_le_plainChars_true (cs : List Char) : lead cs ≤ lead (plainChars true cs) := by
  induction cs with
  | nil => exact Nat.le_refl _
  | cons c cs ih =>
    rw [plainChars_cons (.inl rfl)]
    refine lead_cons_le_lead_cons (isMarkLetter_plainChar true c).symm fun hc => ?_
    rw [isMarkLetter_plainChar] at hc
    change lead cs ≤ lead (plainChars (flipAt true c) cs)
    rwa [flipAt_of_isMarkLetter hc]

/-- A mark that is kept is kept as it is. -/
theorem rewritten_of_not_isDroppable {p : Place} {a b c : Char} {rest : List Char}
    (hmark : isMark a b c = true) (hdrop : p.isDroppable rest = false) :
    rewritten p (a :: b :: c :: rest) =
      a :: b :: c :: rewritten (((p.next a).next b).next c) rest := by
  obtain ⟨ha, hb, hc⟩ := isMarkLetter_of_isMark hmark
  obtain ⟨hsecond, hthird⟩ := beginsMark_tail hmark rest
  rw [rewritten_cons fun _ => hdrop, rewritten_cons (by simp [hsecond]),
    rewritten_cons (by simp [hthird]), rewrite_of_isMarkLetter ha, rewrite_of_isMarkLetter hb,
    rewrite_of_isMarkLetter hc]

/-- Outside double quotes every mark is dropped, so no rewriting begins with fewer letters. -/
theorem lead_plainChars_false_le (p : Place) (cs : List Char) :
    lead (plainChars false cs) ≤ lead (rewritten p cs) := by
  generalize hq : false = quoted
  induction quoted, cs using plainChars_induction generalizing p with
  | nil => exact Nat.zero_le _
  | mark a b c rest hmark ih =>
    rw [plainChars_mark hmark]
    cases hdrop : p.isDroppable rest with
    | true =>
      rw [rewritten_mark hmark hdrop]
      exact ih _ rfl
    | false =>
      rw [rewritten_of_not_isDroppable hmark hdrop, lead_mark hmark]
      exact Nat.le_add_right_of_le (ih _ rfl)
  | char quoted a cs h ih =>
    subst hq
    have hmark : beginsMark (a :: cs) = false := h.resolve_left Bool.false_ne_true
    rw [plainChars_cons h, rewritten_cons (by simp [hmark])]
    refine lead_cons_le_lead_cons ?_ fun ha => ih _ ?_
    · rw [isMarkLetter_plainChar, isMarkLetter_rewrite]
    · rw [isMarkLetter_rewrite] at ha
      exact (flipAt_of_isMarkLetter ha).symm

/-! ### Where the two rewritings agree -/

theorem countsRight_mark {p : Place} {quoted : Bool} {a b c : Char} {rest : List Char}
    (hmark : isMark a b c = true) :
    CountsRight p quoted (a :: b :: c :: rest) ↔
      (p.isDroppable rest = true ↔ quoted = false) ∧
        CountsRight (((p.next a).next b).next c) quoted rest := by
  obtain ⟨ha, hb, hc⟩ := isMarkLetter_of_isMark hmark
  obtain ⟨hsecond, hthird⟩ := beginsMark_tail hmark rest
  have hne : ∀ d, isMarkLetter d = true → d ≠ ';' := fun d hd =>
    ne_of_isMarkLetter hd (by decide)
  rw [countsRight_cons, countsRight_cons, countsRight_cons, flipAt_of_isMarkLetter ha,
    flipAt_of_isMarkLetter hb, flipAt_of_isMarkLetter hc]
  have hfirst : beginsMark (a :: b :: c :: rest) = true := hmark
  simp [TellsRight, hfirst, hsecond, hthird, hne a ha, hne b hb, hne c hc]

/-- Where a character is kept by both rewritings, it is the same character exactly if the count
tells right there. -/
theorem plainChar_eq_rewrite_iff {p : Place} {quoted : Bool} {a : Char} {cs : List Char}
    (hmark : quoted = true ∨ beginsMark (a :: cs) = false)
    (hdrop : beginsMark (a :: cs) = true → p.isDroppable (cs.drop 2) = false) :
    plainChar quoted a = p.rewrite a ↔ TellsRight p quoted (a :: cs) := by
  have hsecond : beginsMark (a :: cs) = true →
      (p.isDroppable ((a :: cs).drop 3) = true ↔ quoted = false) := by
    intro h
    have hq : quoted = true := hmark.resolve_right (by simp [h])
    simp [hdrop h, hq]
  rw [TellsRight, and_iff_left hsecond]
  by_cases ha : a = ';'
  · subst ha
    cases quoted <;> by_cases hp : p.part = .outside <;> simp [plainChar, Place.rewrite, hp]
  · simp [plainChar, Place.rewrite, ha]

/-- From anywhere in a formula, the two rewritings agree exactly if the count tells right from there
on. -/
theorem plainChars_eq_rewritten_iff (p : Place) (quoted : Bool) (cs : List Char) :
    plainChars quoted cs = rewritten p cs ↔ CountsRight p quoted cs := by
  induction quoted, cs using plainChars_induction generalizing p with
  | nil quoted => exact iff_of_true rfl (countsRight_nil p quoted)
  | mark a b c rest hmark ih =>
    rw [plainChars_mark hmark, countsRight_mark hmark]
    cases hdrop : p.isDroppable rest with
    | true =>
      rw [rewritten_mark hmark hdrop, ih]
      simp
    | false =>
      -- the mark is dropped and should not be: the other rewriting begins with three more letters
      rw [rewritten_of_not_isDroppable hmark hdrop]
      refine iff_of_false (fun heq => ?_) (by simp)
      have hlead := lead_plainChars_false_le (((p.next a).next b).next c) rest
      rw [heq, lead_mark hmark] at hlead
      omega
  | char quoted a cs h ih =>
    by_cases hdrop : beginsMark (a :: cs) = true → p.isDroppable (cs.drop 2) = false
    · rw [plainChars_cons h, rewritten_cons hdrop, countsRight_cons, List.cons_eq_cons,
        plainChar_eq_rewrite_iff h hdrop]
      exact and_congr_right fun _ => ih _
    · -- the mark should be dropped and is not: the other rewriting begins with three letters fewer
      simp only [Classical.not_imp, Bool.not_eq_false] at hdrop
      obtain ⟨hmark, hdrop⟩ := hdrop
      obtain rfl : quoted = true := h.resolve_right (by simp [hmark])
      match cs, hmark, hdrop with
      | b :: c :: rest, hmark, hdrop =>
        have hdrop : p.isDroppable rest = true := hdrop
        rw [countsRight_mark hmark, rewritten_mark hmark hdrop]
        refine iff_of_false (fun heq => ?_) (by simp [hdrop])
        have hkept := lead_le_plainChars_true (a :: b :: c :: rest)
        have hleft := lead_rewritten_le (((p.next a).next b).next c) rest
        rw [heq, lead_mark hmark] at hkept
        omega

/-! ### Whole formulas -/

/-- A formula is in the open dialect: after the equals sign it has a mark whose letters have the same
case, and then `body`. -/
def IsOpen (formula : String) (body : List Char) : Prop :=
  formula.toList = '=' :: 'o' :: 'f' :: ':' :: body ∨
    formula.toList = '=' :: 'O' :: 'F' :: ':' :: body

/-- The count of double quotes tells right: an even number of them stands in front of exactly those
semicolons that lie outside all parts, and in front of exactly those marks that belong to a function.
-/
def CountTellsRight (body : List Char) : Prop :=
  ∀ before after, body = before ++ after →
    (after.head? = some ';' → ((placeAfter before).part = .outside ↔ before.count '"' % 2 = 0)) ∧
    (beginsMark after = true →
      ((placeAfter before).isDroppable (after.drop 3) = true ↔ before.count '"' % 2 = 0))

theorem countsRight_start_iff (body : List Char) :
    CountsRight .start false body ↔ CountTellsRight body := by
  simp only [CountsRight, TellsRight, foldl_flipAt_eq_false_iff, Bool.toNat_false, Nat.add_zero,
    CountTellsRight, placeAfter]

theorem plainFormula_of_isOpen {formula : String} {body : List Char} (h : IsOpen formula body) :
    plainFormula formula = String.ofList ('=' :: plainChars false body) := by
  rcases h with h | h <;> simp [plainFormula, h]

theorem plainFormula_of_not_isOpen {formula : String} (h : ∀ body, ¬ IsOpen formula body) :
    plainFormula formula = formula := by
  unfold plainFormula
  split
  case h_1 body hformula => exact absurd (.inl hformula) (h body)
  case h_2 body hformula => exact absurd (.inr hformula) (h body)
  case h_3 => rfl

/-- **Where the change of dialect keeps what a formula says.**  A formula that is not in the open
dialect stays as it is.  One that is loses its marks in front of functions, has commas for
semicolons and keeps all else, whole texts, quoted sheet names and square brackets included, exactly
if the count of double quotes tells right. -/
theorem plainFormula_eq_rewritten_iff (formula : String) :
    ((∀ body, ¬ IsOpen formula body) → plainFormula formula = formula) ∧
    ∀ body, IsOpen formula body →
      (plainFormula formula = String.ofList ('=' :: rewritten .start body) ↔
        CountTellsRight body) ∧
      ∀ before opening cs inner rest, body = before ++ opening :: cs →
        (placeAfter before).part = .outside → splitPart? opening cs = some (inner, rest) →
        rewritten .start body = rewritten .start before ++ opening :: inner ++
          rewritten (placeAfter (before ++ opening :: inner)) rest := by
  refine ⟨plainFormula_of_not_isOpen, fun body hopen => ⟨?_, ?_⟩⟩
  · rw [plainFormula_of_isOpen hopen, String.ofList_inj, List.cons_eq_cons, and_iff_right rfl,
      plainChars_eq_rewritten_iff, countsRight_start_iff]
  · rintro before opening cs inner rest rfl houtside hsplit
    exact rewritten_enclosed houtside hsplit

/-- A formula with a call inside another, a text and a quoted sheet name. -/
def nestedCalls : List Char :=
  "IF(A1;OF:MAX(B1;\"x;of:y\");'it''s'!C1)".toList

theorem plainFormula_eq_rewritten_iff_nestedCalls :
    IsOpen (String.ofList ("=of:".toList ++ nestedCalls)) nestedCalls ∧
      CountTellsRight nestedCalls ∧
      rewritten .start nestedCalls =
        rewritten .start (nestedCalls.take 26) ++ "'it''s'".toList ++
          rewritten (placeAfter (nestedCalls.take 33)) "!C1)".toList := by
  have hopen : IsOpen (String.ofList ("=of:".toList ++ nestedCalls)) nestedCalls :=
    .inl (by decide)
  obtain ⟨hiff, hkept⟩ := (plainFormula_eq_rewritten_iff _).2 _ hopen
  refine ⟨hopen, hiff.mp (by decide), ?_⟩
  exact hkept (nestedCalls.take 26) '\'' "it''s'!C1)".toList "it''s'".toList "!C1)".toList
    (by decide) (by decide) (by simp [splitPart?, Formula.splitQuoted, Formula.consFirst])

/-- A semicolon in a quoted sheet name is changed, so that the formula reads another sheet. -/
theorem semicolon_changed_in_sheetName :
    plainFormula "=of:SUM('a;b'!A1)" = "=SUM('a,b'!A1)" ∧
      rewritten .start "SUM('a;b'!A1)".toList = "SUM('a;b'!A1)".toList := by
  decide

end ReportCompiler.Package
