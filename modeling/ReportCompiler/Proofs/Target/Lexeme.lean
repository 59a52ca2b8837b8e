import ReportCompiler.Formula.Scanner
import ReportCompiler.Layout.Basic
import ReportCompiler.Proofs.Target.Numeral

/-!
# Lexemes of the generated program

The text of an expression falls into numbers, string literals, words and symbols, with blanks
between them where the author liked.  Each lexeme is the longest that begins where it begins.  The
rules are those of the program's language, written down without a look at how this project writes
its expressions, so that reading a written expression says something about the writing.

The text of a lexeme may run on into what follows it: `1` and `2` side by side are one number.  A
blank, a comma or a bracket ends every lexeme in front of it, and these are what stands behind a
piece of a written expression.

## Main definitions

* `isStringLiteral`, `isName` - the texts of string literals and names.
* `Lexeme` - the lexemes.
* `lex` - the lexemes of a text, if it has any.
* `Breaks` - the text begins where no lexeme runs on.

## Main results

* `lex_append` - a text that is read by itself is read in the same way in front of a break.
* `lex_number`, `lex_name`, `lex_string` - numbers, names and string literals are single lexemes.
-/

namespace ReportCompiler.Target

open Formula (consFirst)

/-! ### String literals -/

/-- A character that encloses string literals. -/
def isQuote (c : Char) : Bool :=
  c = '\'' || c = '"'

/-- The inside of a string up to and with its closing quote, and the text behind it.  A backslash
takes the character behind it along, and a line end is not allowed otherwise. -/
def shortBody (q : Char) : List Char → Option (List Char × List Char)
  | [] => none
  | '\\' :: c :: rest => (shortBody q rest).map (consFirst '\\' ∘ consFirst c)
  | c :: rest =>
    if c = q then some ([c], rest)
    else if c = '\n' || c = '\r' then none
    else (shortBody q rest).map (consFirst c)

/-- The inside of a string between tripled quotes, up to and with the closing ones. -/
def longBody (q : Char) : List Char → Option (List Char × List Char)
  | [] => none
  | '\\' :: c :: rest => (longBody q rest).map (consFirst '\\' ∘ consFirst c)
  | c :: rest =>
    if c = q && rest.take 2 = [q, q] then some ([c, q, q], rest.drop 2)
    else (longBody q rest).map (consFirst c)

/-- A string literal without prefix at the beginning of a text, and the text behind it. -/
def literal? : List Char → Option (List Char × List Char)
  | [] => none
  | q :: rest =>
    if !isQuote q then none
    else if rest.take 2 = [q, q] then
      (longBody q (rest.drop 2)).map (consFirst q ∘ consFirst q ∘ consFirst q)
    else (shortBody q rest).map (consFirst q)

/-- A word that may stand right in front of a string literal, in any case. -/
def isStringPrefix (word : List Char) : Bool :=
  [['r'], ['u'], ['b'], ['f'], ['b', 'r'], ['r', 'b'], ['f', 'r'], ['r', 'f']].contains
    (word.map Char.toLower)

/-! ### Words -/

/-- A character that a name can begin with.  Beyond ASCII all characters pass. -/
def isNameStart (c : Char) : Bool :=
  c.isAlpha || c = '_' || 128 ≤ c.toNat

/-- A character that a name can hold. -/
def isNameChar (c : Char) : Bool :=
  isNameStart c || c.isDigit

/-- The text is a name: a word that is no keyword. -/
def isName (s : String) : Bool :=
  (match s.toList with
    | [] => false
    | c :: rest => isNameStart c && rest.all isNameChar) && !keywords.contains s

/-- The text is a string literal, with or without a prefix. -/
def isStringLiteral (cs : List Char) : Bool :=
  let word := cs.takeWhile isNameChar
  let body := cs.dropWhile isNameChar
  (word.isEmpty || isStringPrefix word) && literal? body = some (body, [])

/-! ### Lexemes -/

/-- The brackets, separators and operators of expressions. -/
inductive Symbol
  /-- Opens brackets or a call. -/
  | leftBracket
  /-- Closes brackets or a call. -/
  | rightBracket
  /-- Opens a list or a subscript. -/
  | leftSquare
  /-- Closes a list or a subscript. -/
  | rightSquare
  /-- Separates items. -/
  | comma
  /-- Stands in front of an attribute. -/
  | dot
  /-- Sum, or a sign in front. -/
  | plus
  /-- Difference, or a sign in front. -/
  | minus
  /-- Product. -/
  | times
  /-- Quotient. -/
  | over
  /-- Power. -/
  | power
  /-- Equal. -/
  | eq
  /-- Not equal. -/
  | ne
  /-- Less. -/
  | lt
  /-- Greater. -/
  | gt
  /-- Less or equal. -/
  | le
  /-- Greater or equal. -/
  | ge
  deriving DecidableEq, Repr

/-- A lexeme of an expression. -/
inductive Lexeme
  /-- A number literal. -/
  | number (text : String)
  /-- A string literal. -/
  | string (text : String)
  /-- A name. -/
  | name (text : String)
  /-- A truth value. -/
  | bool (value : Bool)
  /-- The word between a value and its condition. -/
  | if
  /-- The word between a condition and the other value. -/
  | else
  /-- A keyword that no expression here holds. -/
  | keyword (text : String)
  /-- A symbol. -/
  | symbol (s : Symbol)
  deriving DecidableEq, Repr

/-- The longest beginning of `cs` that makes `p` true behind `front`, and the text behind it. -/
def longestPrefix (p : List Char → Bool) (front : List Char) :
    List Char → Option (List Char × List Char)
  | [] => if p front then some (front, []) else none
  | c :: rest =>
    (longestPrefix p (front ++ [c]) rest).or
      (if p front then some (front, c :: rest) else none)

/-- A number at the beginning of a text. -/
def number? (cs : List Char) : Option (Lexeme × List Char) :=
  (longestPrefix isNumeral [] cs).map fun (text, rest) => (.number (String.ofList text), rest)

/-- The lexeme of a word. -/
def wordLexeme (word : String) : Lexeme :=
  if word = "if" then .if
  else if word = "else" then .else
  else if word = "True" then .bool true
  else if word = "False" then .bool false
  else if keywords.contains word then .keyword word
  else .name word

/-- A string literal behind `front` at the beginning of a text. -/
def string? (front cs : List Char) : Option (Lexeme × List Char) :=
  (literal? cs).map fun (text, rest) => (.string (String.ofList (front ++ text)), rest)

/-- A word at the beginning of a text, or the string literal that it is the prefix of. -/
def word? (cs : List Char) : Option (Lexeme × List Char) :=
  let word := cs.takeWhile isNameChar
  let rest := cs.dropWhile isNameChar
  if isStringPrefix word && rest.head?.any isQuote then string? word rest
  else some (wordLexeme (String.ofList word), rest)

/-- One of two symbols, by whether `d` comes next. -/
def followedBy (d : Char) (double : Symbol) (single : Option Symbol) (rest : List Char) :
    Option (Lexeme × List Char) :=
  if rest.head? = some d then some (.symbol double, rest.tail)
  else single.map fun s => (.symbol s, rest)

/-- The symbol that begins with `c`. -/
def symbol? (c : Char) (rest : List Char) : Option (Lexeme × List Char) :=
  match c with
  | '(' => some (.symbol .leftBracket, rest)
  | ')' => some (.symbol .rightBracket, rest)
  | '[' => some (.symbol .leftSquare, rest)
  | ']' => some (.symbol .rightSquare, rest)
  | ',' => some (.symbol .comma, rest)
  | '.' => some (.symbol .dot, rest)
  | '+' => some (.symbol .plus, rest)
  | '-' => some (.symbol .minus, rest)
  | '/' => some (.symbol .over, rest)
  | '*' => followedBy '*' .power (some .times) rest
  | '=' => followedBy '=' .eq none rest
  | '!' => followedBy '=' .ne none rest
  | '<' => followedBy '=' .le (some .lt) rest
  | '>' => followedBy '=' .ge (some .gt) rest
  | _ => none

/-- The lexeme at the beginning of `c :: rest`, which is no blank, and the text behind it. -/
def lexeme? (c : Char) (rest : List Char) : Option (Lexeme × List Char) :=
  if c.isDigit || c = '.' then (number? (c :: rest)).or (symbol? c rest)
  else if isNameStart c then word? (c :: rest)
  else if isQuote c then string? [] (c :: rest)
  else symbol? c rest

/-! ### Nothing is lost -/

theorem longestPrefix_eq {p : List Char → Bool} {front cs text rest : List Char}
    (h : longestPrefix p front cs = some (text, rest)) : p text ∧ text ++ rest = front ++ cs := by
  induction cs generalizing front with
  | nil =>
    rw [longestPrefix, Option.ite_none_right_eq_some] at h
    obtain ⟨hp, heq⟩ := h
    obtain ⟨rfl, rfl⟩ : front = text ∧ [] = rest := by simpa using heq
    exact ⟨hp, rfl⟩
  | cons c cs ih =>
    rw [longestPrefix, Option.or_eq_some_iff, Option.ite_none_right_eq_some] at h
    rcases h with h | ⟨-, hp, heq⟩
    · simpa using ih h
    · obtain ⟨rfl, rfl⟩ : front = text ∧ c :: cs = rest := by simpa using heq
      exact ⟨hp, rfl⟩

theorem shortBody_eq {q : Char} {cs text rest : List Char}
    (h : shortBody q cs = some (text, rest)) : text ++ rest = cs := by
  fun_induction shortBody q cs generalizing text with
  | case1 => cases h
  | case2 c cs ih =>
    obtain ⟨⟨t, r⟩, hbody, heq⟩ := Option.map_eq_some_iff.mp h
    obtain ⟨rfl, rfl⟩ : '\\' :: c :: t = text ∧ r = rest := by simpa [consFirst] using heq
    simp [ih hbody]
  | case3 cs =>
    obtain ⟨rfl, rfl⟩ : [q] = text ∧ cs = rest := by simpa using h
    rfl
  | case4 => cases h
  | case5 c cs _ _ _ ih =>
    obtain ⟨⟨t, r⟩, hbody, heq⟩ := Option.map_eq_some_iff.mp h
    obtain ⟨rfl, rfl⟩ : c :: t = text ∧ r = rest := by simpa [consFirst] using heq
    simp [ih hbody]

theorem longBody_eq {q : Char} {cs text rest : List Char}
    (h : longBody q cs = some (text, rest)) : text ++ rest = cs ∧ 3 ≤ text.length := by
  fun_induction longBody q cs generalizing text with
  | case1 => cases h
  | case2 c cs ih =>
    obtain ⟨⟨t, r⟩, hbody, heq⟩ := Option.map_eq_some_iff.mp h
    obtain ⟨rfl, rfl⟩ : '\\' :: c :: t = text ∧ r = rest := by simpa [consFirst] using heq
    obtain ⟨rfl, hlen⟩ := ih hbody
    exact ⟨rfl, by simp only [List.length_cons]; omega⟩
  | case3 c cs _ hc =>
    obtain ⟨rfl, rfl⟩ : [c, q, q] = text ∧ cs.drop 2 = rest := by simpa using h
    rw [Bool.and_eq_true, decide_eq_true_eq, decide_eq_true_eq] at hc
    refine ⟨?_, Nat.le_refl 3⟩
    calc [c, q, q] ++ cs.drop 2 = c :: (cs.take 2 ++ cs.drop 2) := by rw [hc.2]; rfl
      _ = c :: cs := by rw [List.take_append_drop]
  | case4 c cs _ _ ih =>
    obtain ⟨⟨t, r⟩, hbody, heq⟩ := Option.map_eq_some_iff.mp h
    obtain ⟨rfl, rfl⟩ : c :: t = text ∧ r = rest := by simpa [consFirst] using heq
    obtain ⟨rfl, hlen⟩ := ih hbody
    exact ⟨rfl, by simp only [List.length_cons]; omega⟩

theorem literal?_eq {cs text rest : List Char} (h : literal? cs = some (text, rest)) :
    text ++ rest = cs ∧ text ≠ [] := by
  cases cs with
  | nil => cases h
  | cons q cs =>
    rw [literal?] at h
    split at h
    · cases h
    split at h
    case isTrue hq =>
      obtain ⟨⟨t, r⟩, hbody, heq⟩ := Option.map_eq_some_iff.mp h
      obtain ⟨rfl, rfl⟩ : q :: q :: q :: t = text ∧ r = rest := by simpa [consFirst] using heq
      refine ⟨?_, by simp⟩
      calc q :: q :: q :: t ++ r = q :: ([q, q] ++ (t ++ r)) := rfl
        _ = q :: (cs.take 2 ++ cs.drop 2) := by rw [(longBody_eq hbody).1, hq]
        _ = q :: cs := by rw [List.take_append_drop]
    case isFalse =>
      obtain ⟨⟨t, r⟩, hbody, heq⟩ := Option.map_eq_some_iff.mp h
      obtain ⟨rfl, rfl⟩ : q :: t = text ∧ r = rest := by simpa [consFirst] using heq
      exact ⟨by simp [shortBody_eq hbody], by simp⟩

theorem number?_length {cs rest : List Char} {x : Lexeme} (h : number? cs = some (x, rest)) :
    rest.length < cs.length := by
  obtain ⟨⟨text, r⟩, hlong, heq⟩ := Option.map_eq_some_iff.mp h
  obtain ⟨-, rfl⟩ : Lexeme.number (String.ofList text) = x ∧ r = rest := by simpa using heq
  obtain ⟨hnumeral, happend⟩ := longestPrefix_eq hlong
  obtain ⟨c, text, rfl, -⟩ := beginsNumber_of_isNumeral hnumeral
  have hlen := congrArg List.length happend
  simp only [List.length_append, List.length_cons, List.length_nil] at hlen
  omega

theorem string?_length {front cs rest : List Char} {x : Lexeme}
    (h : string? front cs = some (x, rest)) : rest.length < cs.length := by
  obtain ⟨⟨text, r⟩, hlit, heq⟩ := Option.map_eq_some_iff.mp h
  obtain ⟨-, rfl⟩ : Lexeme.string (String.ofList (front ++ text)) = x ∧ r = rest := by
    simpa using heq
  obtain ⟨rfl, htext⟩ := literal?_eq hlit
  have := List.length_pos_iff.mpr htext
  rw [List.length_append]
  omega

theorem word?_length {c : Char} {cs rest : List Char} {x : Lexeme} (hc : isNameStart c)
    (h : word? (c :: cs) = some (x, rest)) : rest.length ≤ cs.length := by
  have hchar : isNameChar c := by simp [isNameChar, hc]
  have hdrop : ((c :: cs).dropWhile isNameChar).length ≤ cs.length := by
    rw [List.dropWhile_cons_of_pos hchar]
    exact (List.dropWhile_sublist _).length_le
  simp only [word?] at h
  split at h
  · exact Nat.le_of_lt (Nat.lt_of_lt_of_le (string?_length h) hdrop)
  · obtain ⟨-, rfl⟩ := Prod.mk.inj (Option.some.inj h)
    exact hdrop

theorem followedBy_length {d : Char} {double : Symbol} {single : Option Symbol}
    {cs rest : List Char} {x : Lexeme} (h : followedBy d double single cs = some (x, rest)) :
    rest.length ≤ cs.length := by
  unfold followedBy at h
  split at h
  · obtain ⟨-, rfl⟩ := Prod.mk.inj (Option.some.inj h)
    rw [List.length_tail]
    omega
  · obtain ⟨s, -, heq⟩ := Option.map_eq_some_iff.mp h
    obtain ⟨-, rfl⟩ := Prod.mk.inj heq
    exact Nat.le_refl _

theorem symbol?_length {c : Char} {cs rest : List Char} {x : Lexeme}
    (h : symbol? c cs = some (x, rest)) : rest.length ≤ cs.length := by
  unfold symbol? at h
  split at h
  case h_10 | h_11 | h_12 | h_13 | h_14 => exact followedBy_length h
  case h_15 => cases h
  all_goals
    obtain ⟨-, rfl⟩ := Prod.mk.inj (Option.some.inj h)
    exact Nat.le_refl _

/-- A lexeme takes at least one character. -/
theorem lexeme?_length {c : Char} {cs rest : List Char} {x : Lexeme}
    (h : lexeme? c cs = some (x, rest)) : rest.length ≤ cs.length := by
  unfold lexeme? at h
  split at h
  · rcases Option.or_eq_some_iff.mp h with h | ⟨-, h⟩
    · exact Nat.le_of_lt_succ (number?_length h)
    · exact symbol?_length h
  split at h
  case isTrue hc => exact word?_length hc h
  case isFalse =>
    split at h
    · exact Nat.le_of_lt_succ (string?_length h)
    · exact symbol?_length h

/-- A character that separates lexemes and is none itself. -/
def isBlank (c : Char) : Bool :=
  c = ' ' || c = '\t'

/-- The lexemes of a text. -/
def lex : List Char → Option (List Lexeme)
  | [] => some []
  | c :: rest =>
    if isBlank c then lex rest
    else
      match _h : lexeme? c rest with
      | none => none
      | some (x, rest') => (lex rest').map (x :: ·)
termination_by cs => cs.length
decreasing_by
  · exact Nat.lt_succ_self _
  · exact Nat.lt_succ_of_le (lexeme?_length _h)

/-! ### What ends a lexeme -/

/-- A character that no lexeme in front of it runs on into. -/
def isBreak (c : Char) : Bool :=
  [' ', ',', '(', ')', '[', ']'].contains c

/-- No lexeme in front of the text runs on into it. -/
def Breaks (rest : List Char) : Prop :=
  ∀ c ∈ rest.head?, isBreak c

theorem breaks_cons {c : Char} (hc : isBreak c) (rest : List Char) : Breaks (c :: rest) := by
  intro d hd
  obtain rfl : c = d := by simpa using hd
  exact hc

/-- The characters that end lexemes occur in none but string literals and the symbols they are. -/
theorem isBreak_inert {c : Char} (h : isBreak c) :
    isNumeralChar c = false ∧ isNameChar c = false ∧ isQuote c = false ∧ c ≠ '*' ∧ c ≠ '=' := by
  have hmem : c ∈ [' ', ',', '(', ')', '[', ']'] := List.contains_iff_mem.mp h
  simp only [List.mem_cons, List.not_mem_nil, or_false] at hmem
  rcases hmem with rfl | rfl | rfl | rfl | rfl | rfl <;> decide

theorem longestPrefix_eq_none {p : List Char → Bool} {front : List Char}
    (h : ∀ more, p (front ++ more) = false) (cs : List Char) : longestPrefix p front cs = none := by
  induction cs generalizing front with
  | nil => simpa [longestPrefix] using h []
  | cons c cs ih =>
    have hnow : p front = false := by simpa using h []
    have hlater : longestPrefix p (front ++ [c]) cs = none :=
      ih fun more => by simpa using h (c :: more)
    simp [longestPrefix, hnow, hlater]

/-- A longest beginning ends in front of a character that `p` allows nowhere. -/
theorem longestPrefix_append {p : List Char → Bool} {rest : List Char}
    (hrest : ∀ c ∈ rest.head?, ∀ text, c ∈ text → p text = false) (front cs : List Char) :
    longestPrefix p front (cs ++ rest) =
      (longestPrefix p front cs).map (Prod.map id (· ++ rest)) := by
  induction cs generalizing front with
  | nil =>
    cases rest with
    | nil => cases hp : p front <;> simp [longestPrefix, hp]
    | cons d rest =>
      have hnone : longestPrefix p (front ++ [d]) rest = none :=
        longestPrefix_eq_none (fun more => hrest d rfl _ (by simp)) rest
      cases hp : p front <;> simp [longestPrefix, hp, hnone]
  | cons c cs ih =>
    rw [List.cons_append, longestPrefix, longestPrefix, ih]
    cases longestPrefix p (front ++ [c]) cs <;> cases hp : p front <;> simp

theorem number?_append {rest : List Char} (hrest : Breaks rest) (cs : List Char) :
    number? (cs ++ rest) = (number? cs).map (Prod.map id (· ++ rest)) := by
  have hforeign : ∀ c ∈ rest.head?, ∀ text, c ∈ text → isNumeral text = false := by
    intro c hc text hmem
    refine Bool.eq_false_iff.mpr fun h => ?_
    have hchar := isNumeralChar_of_isNumeral h c hmem
    rw [(isBreak_inert (hrest c hc)).1] at hchar
    cases hchar
  rw [number?, number?, longestPrefix_append hforeign, Option.map_map, Option.map_map]
  rfl

theorem takeWhile_append_of_head {p : Char → Bool} {rest : List Char}
    (hrest : ∀ c ∈ rest.head?, p c = false) (cs : List Char) :
    (cs ++ rest).takeWhile p = cs.takeWhile p ∧
      (cs ++ rest).dropWhile p = cs.dropWhile p ++ rest := by
  induction cs with
  | nil =>
    cases rest with
    | nil => exact ⟨rfl, rfl⟩
    | cons d rest => simp [hrest d rfl]
  | cons c cs ih =>
    by_cases hc : p c
    · simp [hc, ih]
    · simp [hc]

theorem shortBody_cons {q c : Char} (hc : c ≠ '\\') (rest : List Char) :
    shortBody q (c :: rest) =
      if c = q then some ([c], rest)
      else if c = '\n' || c = '\r' then none
      else (shortBody q rest).map (consFirst c) :=
  shortBody.eq_3 q c rest fun _ _ h _ => hc h

theorem longBody_cons {q c : Char} (hc : c ≠ '\\') (rest : List Char) :
    longBody q (c :: rest) =
      if c = q && rest.take 2 = [q, q] then some ([c, q, q], rest.drop 2)
      else (longBody q rest).map (consFirst c) :=
  longBody.eq_3 q c rest fun _ _ h _ => hc h

theorem shortBody_append {q : Char} {cs text left : List Char} (hq : q ≠ '\\')
    (h : shortBody q cs = some (text, left)) (rest : List Char) :
    shortBody q (cs ++ rest) = some (text, left ++ rest) := by
  fun_induction shortBody q cs generalizing text with
  | case1 => cases h
  | case2 c cs ih =>
    obtain ⟨⟨t, r⟩, hbody, heq⟩ := Option.map_eq_some_iff.mp h
    obtain ⟨rfl, rfl⟩ : '\\' :: c :: t = text ∧ r = left := by simpa [consFirst] using heq
    simp [shortBody, ih hbody, consFirst]
  | case3 cs =>
    obtain ⟨rfl, rfl⟩ : [q] = text ∧ cs = left := by simpa using h
    rw [List.cons_append, shortBody_cons hq, if_pos rfl]
  | case4 => cases h
  | case5 c cs hslash hc hline ih =>
    obtain ⟨⟨t, r⟩, hbody, heq⟩ := Option.map_eq_some_iff.mp h
    obtain ⟨rfl, rfl⟩ : c :: t = text ∧ r = left := by simpa [consFirst] using heq
    cases cs with
    | nil => cases hbody
    | cons d cs =>
      have hne : c ≠ '\\' := fun hc => hslash d cs hc rfl
      rw [List.cons_append, shortBody_cons hne, if_neg hc, if_neg hline, ih hbody]
      rfl

theorem longBody_append {q : Char} {cs text left : List Char}
    (h : longBody q cs = some (text, left)) (rest : List Char) :
    longBody q (cs ++ rest) = some (text, left ++ rest) := by
  fun_induction longBody q cs generalizing text with
  | case1 => cases h
  | case2 c cs ih =>
    obtain ⟨⟨t, r⟩, hbody, heq⟩ := Option.map_eq_some_iff.mp h
    obtain ⟨rfl, rfl⟩ : '\\' :: c :: t = text ∧ r = left := by simpa [consFirst] using heq
    simp [longBody, ih hbody, consFirst]
  | case3 c cs hslash hc =>
    obtain ⟨rfl, rfl⟩ : [c, q, q] = text ∧ cs.drop 2 = left := by simpa using h
    have htake : cs.take 2 = [q, q] := by
      rw [Bool.and_eq_true, decide_eq_true_eq, decide_eq_true_eq] at hc
      exact hc.2
    obtain ⟨cs, rfl⟩ : ∃ cs', cs = q :: q :: cs' :=
      ⟨cs.drop 2, by rw [← List.take_append_drop 2 cs, htake]; rfl⟩
    have hne : c ≠ '\\' := fun hc => hslash q (q :: cs) hc rfl
    rw [List.cons_append, longBody_cons hne, if_pos (by simpa using hc)]
    rfl
  | case4 c cs hslash hc ih =>
    obtain ⟨⟨t, r⟩, hbody, heq⟩ := Option.map_eq_some_iff.mp h
    obtain ⟨rfl, rfl⟩ : c :: t = text ∧ r = left := by simpa [consFirst] using heq
    -- What closes the string is still to come, so the next two characters are there already.
    obtain ⟨happend, hlen⟩ := longBody_eq hbody
    have hcs : 2 ≤ cs.length := by rw [← happend, List.length_append]; omega
    have hne : c ≠ '\\' := by
      intro hback
      cases cs with
      | nil => cases hbody
      | cons d cs => exact hslash d cs hback rfl
    rw [List.cons_append, longBody_cons hne, List.take_append_of_le_length hcs, if_neg hc, ih hbody]
    rfl

theorem ne_backslash_of_isQuote {q : Char} (hq : isQuote q) : q ≠ '\\' := by
  rintro rfl
  exact absurd hq (by decide)

/-- Only the empty string between two quotes could run on, into a third quote. -/
theorem literal?_append {cs text left rest : List Char} (hrest : Breaks rest)
    (h : literal? cs = some (text, left)) :
    literal? (cs ++ rest) = some (text, left ++ rest) := by
  cases cs with
  | nil => cases h
  | cons q cs =>
    rw [literal?] at h
    split at h
    · cases h
    next hq =>
    have hq' : isQuote q := by simpa using hq
    rw [List.cons_append, literal?, if_neg hq]
    split at h
    case isTrue htake =>
      -- a long string, of whose opening the other two quotes are there already
      obtain ⟨⟨t, r⟩, hbody, heq⟩ := Option.map_eq_some_iff.mp h
      obtain ⟨rfl, rfl⟩ : q :: q :: q :: t = text ∧ r = left := by simpa [consFirst] using heq
      have hlen : 2 ≤ cs.length := by
        have := congrArg List.length htake
        simp only [List.length_take, List.length_cons, List.length_nil] at this
        omega
      rw [List.take_append_of_le_length hlen, if_pos htake, List.drop_append_of_le_length hlen,
        longBody_append hbody]
      rfl
    case isFalse htake =>
      obtain ⟨⟨t, r⟩, hbody, heq⟩ := Option.map_eq_some_iff.mp h
      obtain ⟨rfl, rfl⟩ : q :: t = text ∧ r = left := by simpa [consFirst] using heq
      -- a second quote may close the string at the end, and a third would be a break
      have htake' : (cs ++ rest).take 2 ≠ [q, q] := by
        intro heq
        rcases cs with _ | ⟨d, _ | ⟨e, cs⟩⟩
        · cases hbody
        · cases rest with
          | nil => cases heq
          | cons e rest =>
            obtain ⟨-, rfl⟩ : d = q ∧ e = q := by simpa using heq
            rw [(isBreak_inert (hrest e rfl)).2.2.1] at hq'
            cases hq'
        · exact htake heq
      rw [if_neg htake', shortBody_append (ne_backslash_of_isQuote hq') hbody]
      rfl

theorem string?_append {front cs left rest : List Char} {x : Lexeme} (hrest : Breaks rest)
    (h : string? front cs = some (x, left)) :
    string? front (cs ++ rest) = some (x, left ++ rest) := by
  obtain ⟨⟨text, r⟩, hlit, heq⟩ := Option.map_eq_some_iff.mp h
  obtain ⟨rfl, rfl⟩ := Prod.mk.inj heq
  rw [string?, literal?_append hrest hlit]
  rfl

theorem word?_append {cs left rest : List Char} {x : Lexeme} (hrest : Breaks rest)
    (h : word? cs = some (x, left)) : word? (cs ++ rest) = some (x, left ++ rest) := by
  obtain ⟨htake, hdrop⟩ := takeWhile_append_of_head
    (fun c hc => (isBreak_inert (hrest c hc)).2.1) cs
  -- the word ends where it did, and no quote comes up behind it
  have hhead : (cs.dropWhile isNameChar ++ rest).head?.any isQuote =
      (cs.dropWhile isNameChar).head?.any isQuote := by
    cases cs.dropWhile isNameChar with
    | cons d ds => rfl
    | nil =>
      cases rest with
      | nil => rfl
      | cons e rest => exact (isBreak_inert (hrest e rfl)).2.2.1
  simp only [word?] at h ⊢
  rw [htake, hdrop, hhead]
  split at h
  case isTrue hpre => rw [if_pos hpre, string?_append hrest h]
  case isFalse hpre =>
    obtain ⟨rfl, rfl⟩ := Prod.mk.inj (Option.some.inj h)
    rw [if_neg hpre]

theorem followedBy_append {d : Char} {double : Symbol} {single : Option Symbol}
    {cs left rest : List Char} {x : Lexeme} (hrest : ∀ c ∈ rest.head?, c ≠ d)
    (h : followedBy d double single cs = some (x, left)) :
    followedBy d double single (cs ++ rest) = some (x, left ++ rest) := by
  cases cs with
  | cons c cs =>
    unfold followedBy at h ⊢
    split at h
    case isTrue hc =>
      obtain ⟨rfl, rfl⟩ := Prod.mk.inj (Option.some.inj h)
      rw [if_pos (by simpa using hc)]
      rfl
    case isFalse hc =>
      obtain ⟨s, rfl, heq⟩ := Option.map_eq_some_iff.mp h
      obtain ⟨rfl, rfl⟩ := Prod.mk.inj heq
      rw [if_neg (by simpa using hc)]
      rfl
  | nil =>
    obtain ⟨s, rfl, rfl, rfl⟩ : ∃ s, single = some s ∧ Lexeme.symbol s = x ∧ left = [] := by
      simpa [followedBy] using h
    have hhead : rest.head? ≠ some d := fun hd => hrest d hd rfl
    rw [List.nil_append, followedBy, if_neg hhead]
    rfl

theorem symbol?_append {c : Char} {cs left rest : List Char} {x : Lexeme} (hrest : Breaks rest)
    (h : symbol? c cs = some (x, left)) : symbol? c (cs ++ rest) = some (x, left ++ rest) := by
  have hstar : ∀ d ∈ rest.head?, d ≠ '*' := fun d hd => (isBreak_inert (hrest d hd)).2.2.2.1
  have hequal : ∀ d ∈ rest.head?, d ≠ '=' := fun d hd => (isBreak_inert (hrest d hd)).2.2.2.2
  unfold symbol? at h ⊢
  split at h
  case h_10 => exact followedBy_append hstar h
  case h_11 | h_12 | h_13 | h_14 => exact followedBy_append hequal h
  case h_15 => cases h
  all_goals
    obtain ⟨rfl, rfl⟩ := Prod.mk.inj (Option.some.inj h)
    rfl

theorem lexeme?_append {c : Char} {cs left rest : List Char} {x : Lexeme} (hrest : Breaks rest)
    (h : lexeme? c cs = some (x, left)) : lexeme? c (cs ++ rest) = some (x, left ++ rest) := by
  unfold lexeme? at h ⊢
  split at h
  case isTrue hc =>
    rw [if_pos hc, ← List.cons_append, number?_append hrest]
    rcases Option.or_eq_some_iff.mp h with h | ⟨hnone, h⟩
    · rw [h]
      rfl
    · rw [hnone, symbol?_append hrest h]
      rfl
  case isFalse hc =>
    rw [if_neg hc]
    split at h
    case isTrue hname => rw [if_pos hname, ← List.cons_append, word?_append hrest h]
    case isFalse hname =>
      rw [if_neg hname]
      split at h
      case isTrue hquote => rw [if_pos hquote, ← List.cons_append, string?_append hrest h]
      case isFalse hquote => rw [if_neg hquote, symbol?_append hrest h]

theorem lex_nil : lex [] = some [] := by
  rw [lex]

theorem lex_blank {c : Char} (hc : isBlank c) (rest : List Char) : lex (c :: rest) = lex rest := by
  rw [lex, if_pos hc]

theorem lex_lexeme {c : Char} {cs rest : List Char} {x : Lexeme} (hc : isBlank c = false)
    (h : lexeme? c cs = some (x, rest)) : lex (c :: cs) = (lex rest).map (x :: ·) := by
  rw [lex, if_neg (by simp [hc])]
  split
  case h_1 hnone => rw [h] at hnone; cases hnone
  case h_2 x' rest' hsome =>
    rw [h] at hsome
    obtain ⟨rfl, rfl⟩ := Prod.mk.inj (Option.some.inj hsome)
    rfl

/-- A text that is read by itself is read in the same way in front of a break. -/
theorem lex_append {cs rest : List Char} {ls : List Lexeme} (hrest : Breaks rest)
    (h : lex cs = some ls) : lex (cs ++ rest) = (lex rest).map (ls ++ ·) := by
  fun_induction lex cs generalizing ls with
  | case1 =>
    obtain rfl := Option.some.inj h
    simp
  | case2 c cs hc ih => rw [List.cons_append, lex_blank hc, ih h]
  | case3 => cases h
  | case4 c cs hc x left hx ih =>
    obtain ⟨ls, hls, rfl⟩ := Option.map_eq_some_iff.mp h
    rw [List.cons_append, lex_lexeme (by simpa using hc) (lexeme?_append hrest hx), ih hls,
      Option.map_map]
    rfl

/-! ### Single lexemes -/

theorem longestPrefix_self {p : List Char → Bool} {front cs : List Char} (h : p (front ++ cs)) :
    longestPrefix p front cs = some (front ++ cs, []) := by
  induction cs generalizing front with
  | nil => simp_all [longestPrefix]
  | cons c cs ih =>
    have happend : front ++ [c] ++ cs = front ++ c :: cs := by simp
    rw [longestPrefix, ih (happend ▸ h), happend]
    rfl

/-- A number is one lexeme. -/
theorem lex_number {s : String} (h : isNumeral s.toList) : lex s.toList = some [.number s] := by
  obtain ⟨c, cs, hs, hbegins⟩ := beginsNumber_of_isNumeral h
  have hc : c.isDigit ∨ c = '.' := hbegins.imp_right And.left
  have hblank : isBlank c = false := by
    refine Bool.eq_false_iff.mpr fun hblank => ?_
    rcases (by simpa [isBlank] using hblank : c = ' ' ∨ c = '\t') with rfl | rfl <;>
      exact absurd hc (by decide)
  have hnumber : number? s.toList = some (.number s, []) := by
    rw [number?, longestPrefix_self (by simpa using h)]
    simp
  have hlexeme : lexeme? c cs = some (.number s, []) := by
    rw [lexeme?, if_pos (by simpa using hc), ← hs, hnumber]
    rfl
  rw [hs, lex_lexeme hblank hlexeme, lex_nil]
  rfl

theorem isNameStart_inert {c : Char} (h : isNameStart c) :
    isBlank c = false ∧ (c.isDigit || c = '.') = false := by
  have hne : ∀ d, isNameStart d = false → c ≠ d := by
    rintro d hd rfl
    rw [hd] at h
    cases h
  have hdigit : c.isDigit = false := by
    refine Bool.eq_false_iff.mpr fun hdigit => ?_
    have hle := Text.toNat_le_of_isDigit hdigit
    simp only [isNameStart, Bool.or_eq_true, decide_eq_true_eq] at h
    -- letters are above the digits, and so is what is not ASCII
    rcases h with (halpha | rfl) | hwide
    · have hge := Text.le_toNat_of_isAlpha halpha
      omega
    · exact absurd hle (by decide)
    · omega
  refine ⟨?_, by simp [hdigit, hne '.' rfl]⟩
  simp [isBlank, hne ' ' rfl, hne '\t' rfl]

theorem wordLexeme_of_not_keyword {s : String} (h : keywords.contains s = false) :
    wordLexeme s = .name s := by
  have hne : ∀ k ∈ keywords, s ≠ k := by
    rintro k hk rfl
    rw [List.contains_iff_mem.mpr hk] at h
    cases h
  simp only [wordLexeme, h]
  rw [if_neg (hne "if" (by decide)), if_neg (hne "else" (by decide)),
    if_neg (hne "True" (by decide)), if_neg (hne "False" (by decide))]
  rfl

/-- A name is one lexeme in front of anything that neither goes on with it nor is a literal. -/
theorem lex_name_append {s : String} (h : isName s) {rest : List Char}
    (hrest : ∀ c ∈ rest.head?, isNameChar c = false ∧ isQuote c = false) :
    lex (s.toList ++ rest) = (lex rest).map (.name s :: ·) := by
  simp only [isName, Bool.and_eq_true, Bool.not_eq_true'] at h
  obtain ⟨hword, hkeyword⟩ := h
  split at hword
  case h_1 => cases hword
  case h_2 c cs hs =>
    rw [Bool.and_eq_true] at hword
    obtain ⟨hblank, hnumber⟩ := isNameStart_inert hword.1
    have hall : ∀ d ∈ c :: cs, isNameChar d := by
      intro d hd
      rcases List.mem_cons.mp hd with rfl | hd
      · simp [isNameChar, hword.1]
      · exact List.all_eq_true.mp hword.2 d hd
    have hlexeme : lexeme? c (cs ++ rest) = some (.name s, rest) := by
      rw [lexeme?, if_neg (by simp [hnumber]), if_pos hword.1]
      -- the run of name characters at the beginning is the whole name
      obtain ⟨htake, hdrop⟩ := takeWhile_append_of_head (fun d hd => (hrest d hd).1) []
      have hword : (c :: cs ++ rest).takeWhile isNameChar = c :: cs := by
        rw [List.takeWhile_append_of_pos hall, ← List.nil_append rest, htake]
        exact List.append_nil _
      have hbehind : (c :: cs ++ rest).dropWhile isNameChar = rest := by
        rw [List.dropWhile_append_of_pos hall]
        exact hdrop
      have hquote : rest.head?.any isQuote = false := by
        cases hhead : rest.head? with
        | none => rfl
        | some d => exact (hrest d hhead).2
      rw [List.cons_append] at hword hbehind
      simp only [word?, hword, hbehind, hquote, Bool.and_false]
      rw [if_neg Bool.false_ne_true, ← hs, String.ofList_toList,
        wordLexeme_of_not_keyword hkeyword]
    rw [hs, List.cons_append, lex_lexeme hblank hlexeme]

/-- A name is one lexeme. -/
theorem lex_name {s : String} (h : isName s) : lex s.toList = some [.name s] := by
  have hlex : lex (s.toList ++ []) = (lex []).map (.name s :: ·) := lex_name_append h (by simp)
  rwa [List.append_nil, lex_nil] at hlex

/-- A point that no digit comes behind is a symbol. -/
theorem lex_point {c : Char} (hc : c.isDigit = false) (rest : List Char) :
    lex ('.' :: c :: rest) = (lex (c :: rest)).map (.symbol .dot :: ·) := by
  have hnot : ∀ more, isNumeral (['.', c] ++ more) = false := by
    refine fun more => Bool.eq_false_iff.mpr fun h => ?_
    obtain ⟨first, behind, heq, hfirst⟩ := beginsNumber_of_isNumeral h
    obtain ⟨rfl, rfl⟩ := List.cons_eq_cons.mp heq
    rcases hfirst with hdigit | ⟨-, hdigit⟩
    · cases hdigit
    · exact absurd hdigit (Bool.eq_false_iff.mp hc)
  have hnumber : number? ('.' :: c :: rest) = none := by
    have hlong : longestPrefix isNumeral ['.', c] rest = none := longestPrefix_eq_none hnot rest
    have hempty : isNumeral [] = false := by decide
    have hpoint : isNumeral ['.'] = false := by decide
    simp [number?, longestPrefix, hlong, hempty, hpoint]
  exact lex_lexeme rfl (by rw [lexeme?, if_pos (by decide), hnumber]; rfl)

theorem isNameStart_of_toLower {c : Char} (h : c.toLower ∈ ['r', 'u', 'b', 'f']) :
    isNameStart c := by
  unfold Char.toLower at h
  split at h
  case isTrue hupper =>
    have halpha : c.isAlpha := Text.isAlpha_of_isUpper (decide_eq_true hupper)
    simp [isNameStart, halpha]
  case isFalse =>
    simp only [List.mem_cons, List.not_mem_nil, or_false] at h
    rcases h with rfl | rfl | rfl | rfl <;> decide

theorem isNameStart_of_isStringPrefix {c : Char} {cs : List Char}
    (h : isStringPrefix (c :: cs)) : isNameStart c := by
  have hall : [['r'], ['u'], ['b'], ['f'], ['b', 'r'], ['r', 'b'], ['f', 'r'], ['r', 'f']].all
      (·.all ['r', 'u', 'b', 'f'].contains) := by decide
  have hword := List.all_eq_true.mp hall _ (List.contains_iff_mem.mp h)
  have hmem := List.all_eq_true.mp hword c.toLower (by simp)
  exact isNameStart_of_toLower (List.contains_iff_mem.mp hmem)

theorem isQuote_of_literal? {cs text left : List Char} (h : literal? cs = some (text, left)) :
    ∃ q rest, cs = q :: rest ∧ isQuote q := by
  cases cs with
  | nil => cases h
  | cons q rest =>
    refine ⟨q, rest, rfl, ?_⟩
    cases hq : isQuote q with
    | true => rfl
    | false => simp [literal?, hq] at h

theorem isQuote_inert {q : Char} (h : isQuote q) :
    isBlank q = false ∧ (q.isDigit || q = '.') = false ∧ isNameStart q = false := by
  rcases (by simpa [isQuote] using h : q = '\'' ∨ q = '"') with rfl | rfl <;> decide

/-- A string literal is one lexeme. -/
theorem lex_string {s : String} (h : isStringLiteral s.toList) :
    lex s.toList = some [.string s] := by
  simp only [isStringLiteral, Bool.and_eq_true, Bool.or_eq_true, decide_eq_true_eq] at h
  obtain ⟨hword, hbody⟩ := h
  obtain ⟨q, rest, hrest, hq⟩ := isQuote_of_literal? hbody
  have happend := List.takeWhile_append_dropWhile (p := isNameChar) (l := s.toList)
  have hstring : string? (s.toList.takeWhile isNameChar) (s.toList.dropWhile isNameChar) =
      some (.string s, []) := by
    simp only [string?, hbody, Option.map_some, happend, String.ofList_toList]
  cases hs : s.toList.takeWhile isNameChar with
  | nil =>
    -- no marks: the quote is what comes first
    obtain ⟨hblank, hnumber, hname⟩ := isQuote_inert hq
    rw [hs, hrest] at hstring
    rw [hs, hrest, List.nil_append] at happend
    have hlexeme : lexeme? q rest = some (.string s, []) := by
      rw [lexeme?, if_neg (by simp [hnumber]), if_neg (by simp [hname]), if_pos hq, hstring]
    rw [← happend, lex_lexeme hblank hlexeme, lex_nil]
    rfl
  | cons c cs =>
    -- marks: they look like a name until the quote behind them is seen
    have hmarks : isStringPrefix (s.toList.takeWhile isNameChar) := by
      rcases hword with hempty | hmarks
      · rw [hs] at hempty
        cases hempty
      · exact hmarks
    have hname : isNameStart c := isNameStart_of_isStringPrefix (hs ▸ hmarks)
    obtain ⟨hblank, hnumber⟩ := isNameStart_inert hname
    have hword? : word? s.toList = some (.string s, []) := by
      simp only [word?]
      rw [if_pos (by simp [hmarks, hrest, hq]), hstring]
    rw [hs, List.cons_append] at happend
    have hlexeme : lexeme? c (cs ++ s.toList.dropWhile isNameChar) = some (.string s, []) := by
      rw [lexeme?, if_neg (by simp [hnumber]), if_pos hname, happend, hword?]
    rw [← happend, lex_lexeme hblank hlexeme, lex_nil]
    rfl

end ReportCompiler.Target
