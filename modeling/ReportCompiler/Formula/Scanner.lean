import ReportCompiler.Formula.Token

/-!
# Formula text split into tokens

Text that does not begin with `=` is one literal token.  The rest is read from left to right with
three pieces of memory: the operand gathered so far, the groups that are open, and the tokens
already complete.

* `ScanFault` - the ways in which a text has no tokens, with their messages.
* `Scanner` - the memory.
* `Scanner.step` - what one piece of text does to it, and the text left over.
* `tokenize` - the tokens of a formula.
-/

namespace ReportCompiler.Formula

/-- Why a formula text cannot be split into tokens. -/
inductive ScanFault
  /-- A double quote inside an operand. -/
  | quoteAfter (operand : String)
  /-- A text or quoted sheet name without end. -/
  | unterminatedText
  /-- A square bracket without end. -/
  | unmatchedBracket
  /-- A number sign that begins no error value. -/
  | badErrorValue (rest : String)
  /-- A closer where nothing is open. -/
  | unmatchedCloser (closer : Char)
  /-- A closer for another kind of group. -/
  | mismatchedCloser (closer : Char) (opener : String)
  /-- A group that is open at the end. -/
  | unclosed (opener : String)
  deriving DecidableEq, Repr

/-- The message of a fault. -/
def ScanFault.message : ScanFault → String
  | quoteAfter operand => "unexpected '\"' after '" ++ operand ++ "'"
  | unterminatedText => "unterminated string"
  | unmatchedBracket => "unmatched '['"
  | badErrorValue rest => "invalid error literal at '" ++ rest ++ "'"
  | unmatchedCloser closer => "unmatched '" ++ String.ofList [closer] ++ "'"
  | mismatchedCloser closer opener =>
    "mismatched '" ++ String.ofList [closer] ++ "' closing " ++ opener
  | unclosed opener => "unclosed " ++ opener

/-- The memory of the scanner. -/
structure Scanner where
  /-- The operand gathered so far. -/
  pending : String
  /-- The openers of the groups that are open, the innermost first. -/
  groups : List Token
  /-- The complete tokens, the last first. -/
  done : List Token
  deriving DecidableEq, Repr

namespace Scanner

/-- Nothing read yet. -/
def start : Scanner :=
  ⟨"", [], []⟩

/-- One more complete token. -/
def emit (s : Scanner) (t : Token) : Scanner :=
  { s with done := t :: s.done }

/-- More text for the operand. -/
def gather (s : Scanner) (cs : List Char) : Scanner :=
  { s with pending := s.pending ++ String.ofList cs }

/-- The operand is complete, if there is one. -/
def flush (s : Scanner) : Scanner :=
  if s.pending = "" then s else { s with pending := "", done := .operand s.pending :: s.done }

/-- The last complete token that is not blank. -/
def lastSolid? (s : Scanner) : Option Token :=
  s.done.find? fun t => t.kind != .whitespace

/-- A sign that comes next stands between two operands. -/
def signIsInfix (s : Scanner) : Bool :=
  match s.lastSolid? with
  | some t => t.subkind = .closer || t.kind = .postfixOp || t.kind = .operand
  | none => false

end Scanner

/-- The characters that end the operand in front of them. -/
def isTerminator (c : Char) : Bool :=
  [',', ';', '}', ')', ' ', '+', '-', '*', '/', '^', '&', '=', '>', '<', '%'].contains c

/-- A mantissa that waits for a signed exponent: one digit from 1 to 9, perhaps a point and digits,
and an `E`. -/
def awaitsExponent (operand : List Char) : Bool :=
  match operand.reverse with
  | e :: mantissa =>
    (e = 'E' || e = 'e') &&
      match mantissa.reverse with
      | d :: rest =>
        ('1' ≤ d && d ≤ '9') &&
          match rest with
          | [] => true
          | point :: fraction => point = '.' && !fraction.isEmpty && fraction.all Char.isDigit
      | [] => false
  | [] => false

/-- One more character in front of the first of two parts. -/
def consFirst (c : Char) (p : List Char × List Char) : List Char × List Char :=
  (c :: p.1, p.2)

/-- Splits a text after the `delim` that closes it, a doubled one standing for itself.  The first
part has the closing delimiter. -/
def splitQuoted (delim : Char) : List Char → Option (List Char × List Char)
  | [] => none
  | c :: rest =>
    if c = delim then
      match rest with
      | d :: rest' =>
        if d = delim then (splitQuoted delim rest').map (consFirst c ∘ consFirst d)
        else some ([c], rest)
      | [] => some ([c], rest)
    else (splitQuoted delim rest).map (consFirst c)

/-- Splits a text after the square bracket that closes the outermost of `depth` open ones. -/
def splitBrackets (depth : Nat) : List Char → Option (List Char × List Char)
  | [] => none
  | c :: rest =>
    if c = '[' then (splitBrackets (depth + 1) rest).map (consFirst c)
    else if c = ']' then
      if depth ≤ 1 then some ([c], rest)
      else (splitBrackets (depth - 1) rest).map (consFirst c)
    else (splitBrackets depth rest).map (consFirst c)

/-- The error values of a spreadsheet. -/
def errorValues : List String :=
  ["#NULL!", "#DIV/0!", "#VALUE!", "#REF!", "#NAME?", "#NUM!", "#N/A", "#GETTING_DATA"]

/-- The text after a given beginning, if it begins so. -/
def dropBeginning? : List Char → List Char → Option (List Char)
  | [], cs => some cs
  | _ :: _, [] => none
  | b :: bs, c :: cs => if b = c then dropBeginning? bs cs else none

/-- The error value that a text begins with, and the text after it. -/
def splitErrorValue (cs : List Char) : Option (String × List Char) :=
  errorValues.findSome? fun e => (dropBeginning? e.toList cs).map (e, ·)

/-- The blanks at the beginning of a text: spaces and line feeds. -/
def isBlankChar (c : Char) : Bool :=
  c = ' ' || c = '\n'

namespace Scanner

/-- A text operand in double quotes, or a quoted sheet name that joins the operand.  `rest` follows
the opening quote. -/
def stepQuote (s : Scanner) (delim : Char) (rest : List Char) :
    Except ScanFault (Scanner × List Char) :=
  if delim = '"' && s.pending != "" then .error (.quoteAfter s.pending)
  else match splitQuoted delim rest with
    | none => .error .unterminatedText
    | some (body, rest) =>
      if delim = '"' then .ok (s.emit (.operand (String.ofList (delim :: body))), rest)
      else .ok (s.gather (delim :: body), rest)

/-- Square brackets, which join the operand with all that is inside them. -/
def stepBracket (s : Scanner) (rest : List Char) : Except ScanFault (Scanner × List Char) :=
  match splitBrackets 1 rest with
  | none => .error .unmatchedBracket
  | some (body, rest) => .ok (s.gather ('[' :: body), rest)

/-- An error value.  It joins the operand; when there is none, it is complete at once. -/
def stepError (s : Scanner) (rest : List Char) : Except ScanFault (Scanner × List Char) :=
  match splitErrorValue ('#' :: rest) with
  | none => .error (.badErrorValue (String.ofList ('#' :: rest)))
  | some (e, rest) =>
    if s.pending = "" then .ok (s.emit (.operand e), rest) else .ok (s.gather e.toList, rest)

/-- A run of blanks, the first of which is `c`. -/
def stepBlank (s : Scanner) (c : Char) (rest : List Char) : Scanner × List Char :=
  (s.flush.emit ⟨.whitespace, .plain, String.ofList (c :: rest.takeWhile isBlankChar)⟩,
   rest.dropWhile isBlankChar)

/-- An operator of two characters, by its first and second. -/
def isPairOperator (c d : Char) : Bool :=
  (c = '>' && d = '=') || (c = '<' && d = '=') || (c = '<' && d = '>')

/-- The token of an operator of one character. -/
def operatorToken (s : Scanner) (c : Char) : Token :=
  if c = '%' then ⟨.postfixOp, .plain, "%"⟩
  else if c = '+' || c = '-' then
    ⟨if s.signIsInfix then .infixOp else .prefixOp, .plain, String.ofList [c]⟩
  else ⟨.infixOp, .plain, String.ofList [c]⟩

/-- An operator. -/
def stepOperator (s : Scanner) (c : Char) (rest : List Char) : Scanner × List Char :=
  match rest with
  | d :: rest' =>
    if isPairOperator c d then (s.emit ⟨.infixOp, .plain, String.ofList [c, d]⟩, rest')
    else (s.emit (s.operatorToken c), rest)
  | [] => (s.emit (s.operatorToken c), rest)

/-- A new group. -/
def openGroup (s : Scanner) (t : Token) : Scanner :=
  { s with groups := t :: s.groups, done := t :: s.done }

/-- An opener: of an array, of the function whose name is the operand, or a bracket. -/
def stepOpener (s : Scanner) (c : Char) : Scanner :=
  if c = '{' then s.flush.openGroup ⟨.array, .opener, "\x7b"⟩
  else if s.pending = "" then s.openGroup ⟨.paren, .opener, "("⟩
  else openGroup { s with pending := "" } ⟨.func, .opener, s.pending ++ "("⟩

/-- The character that closes a group. -/
def closerOf (opener : Token) : Char :=
  if opener.kind = .array then '}' else ')'

/-- A closer of the innermost group. -/
def stepCloser (s : Scanner) (c : Char) : Except ScanFault Scanner :=
  match s.groups with
  | [] => .error (.unmatchedCloser c)
  | opener :: outer =>
    if c = closerOf opener then
      .ok (emit { s with groups := outer } ⟨opener.kind, .closer, String.ofList [c]⟩)
    else .error (.mismatchedCloser c opener.value)

/-- The token of a separator.  A comma outside functions and arrays is the union of two references.
-/
def separatorToken (s : Scanner) (c : Char) : Token :=
  if c = ';' then ⟨.sep, .row, ";"⟩
  else match s.groups with
    | opener :: _ => if opener.kind = .paren then ⟨.infixOp, .plain, ","⟩ else ⟨.sep, .arg, ","⟩
    | [] => ⟨.infixOp, .plain, ","⟩

/-- What a character does once the operand that it ends is complete. -/
def dispatch (s : Scanner) (c : Char) (rest : List Char) :
    Except ScanFault (Scanner × List Char) :=
  if c = '"' || c = '\'' then s.stepQuote c rest
  else if c = '[' then s.stepBracket rest
  else if c = '#' then s.stepError rest
  else if isBlankChar c then .ok (s.stepBlank c rest)
  else if ['+', '-', '*', '/', '^', '&', '=', '>', '<', '%'].contains c then
    .ok (s.stepOperator c rest)
  else if c = '{' || c = '(' then .ok (s.stepOpener c, rest)
  else if c = ')' || c = '}' then
    match s.stepCloser c with
    | .error fault => .error fault
    | .ok s' => .ok (s', rest)
  else if c = ';' || c = ',' then .ok (s.emit (s.separatorToken c), rest)
  else .ok (s.gather [c], rest)

/-- What the character `c`, followed by `rest`, does: the new memory and the text left over. -/
def step (s : Scanner) (c : Char) (rest : List Char) : Except ScanFault (Scanner × List Char) :=
  if (c = '+' || c = '-') && awaitsExponent s.pending.toList then .ok (s.gather [c], rest)
  else (if isTerminator c then s.flush else s).dispatch c rest

end Scanner

/-! ### Every step uses up text -/

theorem splitQuoted_append {delim : Char} {cs body rest : List Char}
    (h : splitQuoted delim cs = some (body, rest)) : body ++ rest = cs := by
  fun_induction splitQuoted delim cs generalizing body rest with
  | case1 => simp at h
  | case2 tail ih =>
    obtain ⟨p, hp, heq⟩ := Option.map_eq_some_iff.mp h
    simp only [Function.comp, consFirst, Prod.mk.injEq] at heq
    rw [← heq.1, ← heq.2, List.cons_append, List.cons_append, ih hp]
  | case3 | case4 =>
    simp only [Option.some.injEq, Prod.mk.injEq] at h
    rw [← h.1, ← h.2]
    rfl
  | case5 c tail hc ih =>
    obtain ⟨p, hp, heq⟩ := Option.map_eq_some_iff.mp h
    simp only [consFirst, Prod.mk.injEq] at heq
    rw [← heq.1, ← heq.2, List.cons_append, ih hp]

theorem splitBrackets_append {depth : Nat} {cs body rest : List Char}
    (h : splitBrackets depth cs = some (body, rest)) : body ++ rest = cs := by
  fun_induction splitBrackets depth cs generalizing body rest with
  | case1 => simp at h
  | case3 =>
    simp only [Option.some.injEq, Prod.mk.injEq] at h
    rw [← h.1, ← h.2]
    rfl
  | case2 _ _ ih | case4 _ _ _ _ ih | case5 _ _ _ _ _ ih =>
    obtain ⟨p, hp, heq⟩ := Option.map_eq_some_iff.mp h
    simp only [consFirst, Prod.mk.injEq] at heq
    rw [← heq.1, ← heq.2, List.cons_append, ih hp]

theorem dropBeginning?_append {beginning cs rest : List Char}
    (h : dropBeginning? beginning cs = some rest) : beginning ++ rest = cs := by
  fun_induction dropBeginning? beginning cs with
  | case1 => simpa using h.symm
  | case2 => simp at h
  | case3 b bs cs ih => rw [List.cons_append, ih h]
  | case4 => simp at h

theorem splitErrorValue_append {cs rest : List Char} {e : String}
    (h : splitErrorValue cs = some (e, rest)) : e ∈ errorValues ∧ e.toList ++ rest = cs := by
  obtain ⟨e', he', hmap⟩ := List.exists_of_findSome?_eq_some h
  obtain ⟨r, hr, heq⟩ := Option.map_eq_some_iff.mp hmap
  simp only [Prod.mk.injEq] at heq
  rw [← heq.1, ← heq.2]
  exact ⟨he', dropBeginning?_append hr⟩

namespace Scanner

theorem stepQuote_length {s s' : Scanner} {delim : Char} {rest rest' : List Char}
    (h : s.stepQuote delim rest = .ok (s', rest')) : rest'.length ≤ rest.length := by
  unfold stepQuote at h
  split at h
  · simp at h
  · split at h
    · simp at h
    · rename_i body tail hsplit
      have happ := congrArg List.length (splitQuoted_append hsplit)
      rw [List.length_append] at happ
      split at h <;>
        · simp only [Except.ok.injEq, Prod.mk.injEq] at h
          rw [← h.2]
          omega

theorem stepBracket_length {s s' : Scanner} {rest rest' : List Char}
    (h : s.stepBracket rest = .ok (s', rest')) : rest'.length ≤ rest.length := by
  unfold stepBracket at h
  split at h
  · simp at h
  · rename_i body tail hsplit
    have happ := congrArg List.length (splitBrackets_append hsplit)
    rw [List.length_append] at happ
    simp only [Except.ok.injEq, Prod.mk.injEq] at h
    rw [← h.2]
    omega

theorem errorValues_length {e : String} (h : e ∈ errorValues) : 1 ≤ e.toList.length := by
  revert e
  decide

theorem stepError_length {s s' : Scanner} {rest rest' : List Char}
    (h : s.stepError rest = .ok (s', rest')) : rest'.length ≤ rest.length := by
  unfold stepError at h
  split at h
  · simp at h
  · rename_i e tail hsplit
    obtain ⟨hmem, heq⟩ := splitErrorValue_append hsplit
    have happ := congrArg List.length heq
    have hone := errorValues_length hmem
    rw [List.length_append, List.length_cons] at happ
    split at h <;>
      · simp only [Except.ok.injEq, Prod.mk.injEq] at h
        rw [← h.2]
        omega

theorem stepBlank_length (s : Scanner) (c : Char) (rest : List Char) :
    (s.stepBlank c rest).2.length ≤ rest.length :=
  (List.dropWhile_suffix _).length_le

theorem stepOperator_length (s : Scanner) (c : Char) (rest : List Char) :
    (s.stepOperator c rest).2.length ≤ rest.length := by
  unfold stepOperator
  split
  · split <;> simp
  · simp

theorem dispatch_length {s s' : Scanner} {c : Char} {rest rest' : List Char}
    (h : s.dispatch c rest = .ok (s', rest')) : rest'.length ≤ rest.length := by
  have of_ok {p : Scanner × List Char} (hp : p.2.length ≤ rest.length)
      (h : (.ok p : Except ScanFault _) = .ok (s', rest')) : rest'.length ≤ rest.length := by
    rw [Except.ok.inj h] at hp
    exact hp
  unfold dispatch at h
  repeat' split at h
  · exact stepQuote_length h
  · exact stepBracket_length h
  · exact stepError_length h
  · exact of_ok (stepBlank_length _ _ _) h
  · exact of_ok (stepOperator_length _ _ _) h
  · exact of_ok (Nat.le_refl _) h
  · simp at h
  · exact of_ok (Nat.le_refl _) h
  · exact of_ok (Nat.le_refl _) h
  · exact of_ok (Nat.le_refl _) h

/-- A step leaves no more text than followed its first character. -/
theorem step_length {s s' : Scanner} {c : Char} {rest rest' : List Char}
    (h : s.step c rest = .ok (s', rest')) : rest'.length ≤ rest.length := by
  unfold step at h
  split at h
  · exact Nat.le_of_eq (congrArg List.length (Prod.mk.inj (Except.ok.inj h)).2).symm
  · exact dispatch_length h

end Scanner

/-! ### The loop -/

/-- The memory after the whole text, the last operand complete. -/
def Scanner.scan (s : Scanner) (cs : List Char) : Except ScanFault Scanner :=
  match cs with
  | [] => .ok s.flush
  | c :: rest =>
    match _h : s.step c rest with
    | .error fault => .error fault
    | .ok (s', rest') => s'.scan rest'
termination_by cs.length
decreasing_by
  have := Scanner.step_length _h
  simp only [List.length_cons]
  omega

/-- The tokens of a formula. -/
def tokenize (formula : String) : Except ScanFault (List Token) :=
  match formula.toList with
  | [] => .ok []
  | '=' :: body =>
    match Scanner.start.scan body with
    | .error fault => .error fault
    | .ok s =>
      match s.groups with
      | [] => .ok s.done.reverse
      | opener :: _ => .error (.unclosed opener.value)
  | _ => .ok [⟨.literal, .plain, formula⟩]

end ReportCompiler.Formula
