import ReportCompiler.Proofs.Target.Denotation

/-!
# The names that program text refers to

A name in a program may be bound where it is used, as parameters and loop variables are, or it is
looked up among the names of the whole program and the names that the language brings along.  Which
is which can be read off the text.  Strings and comments are passed over, but for the code in the
holes of formatted strings; attributes, keywords and the names of arguments refer to nothing by
themselves; and a definition binds its parameters and what its body assigns to or loops over.

## Main definitions

* `Piece`, `pieces` - words and marks, which are all that matters of a line.
* `referredWords`, `loopTargets`, `assignedWord` - the words that are looked up and those that are
  bound.
* `Definition`, `definitions` - functions and methods with their bodies.
* `Definition.globals`, `lineGlobals` - the names that a body, and a line outside of all bodies, take
  from outside.

* `Yields` - a text has the same pieces whatever comes behind it.

## Main results

* `yields_quoted`, `yields_word` - a literal has no pieces, and a word in front of a mark is one.
* `mem_lineGlobals` - what a line takes from outside is a word of it that is neither a keyword nor
  looped over.
-/

namespace ReportCompiler.Target

open Formula (quoteChar quotedChars quoted)
open Text (isWordChar)

/-! ### Words and marks -/

/-- What matters of a line of a program: its words and all other characters that are not blank. -/
inductive Piece
  /-- A name or a keyword. -/
  | word (text : List Char)
  /-- Another character. -/
  | mark (c : Char)
  deriving DecidableEq, Repr

/-- The words among some pieces. -/
def words (ps : List Piece) : List (List Char) :=
  ps.filterMap fun
    | .word w => some w
    | .mark _ => none

theorem words_append (ps qs : List Piece) : words (ps ++ qs) = words ps ++ words qs :=
  List.filterMap_append

/-- Where in a line a character stands. -/
inductive Mode
  /-- In code, behind these characters of a word, the last one first. -/
  | code (word : List Char)
  /-- In a string that the quote ends, behind a backslash or not.  Its braces may hold code. -/
  | string (quote : Char) (holes escaped : Bool)
  /-- In the code between the braces of a string, behind these characters of a word. -/
  | hole (quote : Char) (word : List Char)
  /-- In a comment. -/
  | comment

/-- The piece that the characters of a word make, the last one given first.  A number is none. -/
def wordPieces (word : List Char) : List Piece :=
  if word.getLast?.all Char.isDigit then [] else [.word word.reverse]

/-- The piece that a character outside of words makes. -/
def markPieces (c : Char) : List Piece :=
  if isBlank c then [] else [.mark c]

/-- The pieces of a line from some place on. -/
def pieces : Mode → List Char → List Piece
  | .code word, [] => wordPieces word
  | .code word, c :: rest =>
    if isWordChar c then pieces (.code (c :: word)) rest
    else if isQuote c then
      -- the letter right in front of a formatted string belongs to the string
      if word = ['f'] then pieces (.string c true false) rest
      else wordPieces word ++ pieces (.string c false false) rest
    else if c = '#' then wordPieces word ++ pieces .comment rest
    else wordPieces word ++ markPieces c ++ pieces (.code []) rest
  | .string quote holes escaped, c :: rest =>
    if escaped then pieces (.string quote holes false) rest
    else if c = '\\' then pieces (.string quote holes true) rest
    else if c = quote then pieces (.code []) rest
    else if holes && c = '{' then pieces (.hole quote []) rest
    else pieces (.string quote holes false) rest
  | .hole quote word, c :: rest =>
    if isWordChar c then pieces (.hole quote (c :: word)) rest
    else if c = '}' then wordPieces word ++ pieces (.string quote true false) rest
    else wordPieces word ++ markPieces c ++ pieces (.hole quote []) rest
  | .string _ _ _, [] | .hole _ _, [] | .comment, _ => []

/-! ### Words that are looked up and words that are bound -/

/-- The word is a keyword. -/
def isKeyword (word : List Char) : Bool :=
  (keywords.map String.toList).contains word

/-- A single equals sign comes next, as it does behind what is assigned to and behind the name of an
argument. -/
def isBinding : List Piece → Bool
  | .mark '=' :: rest => rest.head? != some (.mark '=')
  | _ => false

/-- The words that are looked up: no attributes, which a dot stands in front of, no keywords and no
names in front of an equals sign. -/
def referredWords (afterDot : Bool) : List Piece → List (List Char)
  | [] => []
  | .mark c :: rest => referredWords (c = '.') rest
  | .word w :: rest =>
    if afterDot || isKeyword w || isBinding rest then referredWords false rest
    else w :: referredWords false rest

/-- The words between `for` and `in`. -/
def loopTargets (inside : Bool) : List Piece → List (List Char)
  | [] => []
  | .mark _ :: rest => loopTargets inside rest
  | .word w :: rest =>
    if w = ['f', 'o', 'r'] then loopTargets true rest
    else if w = ['i', 'n'] then loopTargets false rest
    else if inside then w :: loopTargets true rest
    else loopTargets false rest

/-- The word that the line assigns to. -/
def assignedWord : List Piece → List (List Char)
  | .word w :: rest => if isBinding rest then [w] else []
  | _ => []

/-- The names that a line outside of all bodies takes from outside. -/
def lineGlobals (line : List Char) : List (List Char) :=
  let ps := pieces (.code []) line
  (referredWords false ps).filter fun w => !(loopTargets false ps).contains w

/-! ### Definitions -/

/-- A function or method, by its lines. -/
structure Definition where
  /-- The line with its name and parameters. -/
  header : List Char
  /-- The lines of its body. -/
  body : List (List Char)
  deriving DecidableEq, Repr

namespace Definition

/-- The words of the header behind `def` and the name. -/
def parameters (d : Definition) : List (List Char) :=
  (words (pieces (.code []) d.header)).drop 2

/-- The names that the definition binds: its parameters and what its body assigns to or loops over.
-/
def locals (d : Definition) : List (List Char) :=
  d.parameters ++ d.body.flatMap fun line =>
    let ps := pieces (.code []) line
    assignedWord ps ++ loopTargets false ps

/-- The names that the body takes from outside. -/
def globals (d : Definition) : List (List Char) :=
  (d.body.flatMap fun line => referredWords false (pieces (.code []) line)).filter fun w =>
    !d.locals.contains w

end Definition

/-- The blanks in front of a line. -/
def indentation (line : List Char) : Nat :=
  (line.takeWhile (· = ' ')).length

/-- The line begins a definition. -/
def beginsDefinition (line : List Char) : Bool :=
  ['d', 'e', 'f', ' '].isPrefixOf (line.dropWhile (· = ' '))

/-- The functions and methods among the lines: a body goes on while lines are empty or stand further
to the right than the header. -/
def definitions : List (List Char) → List Definition
  | [] => []
  | line :: rest =>
    if beginsDefinition line then
      ⟨line, rest.takeWhile fun l => l.isEmpty || indentation line < indentation l⟩ ::
        definitions rest
    else definitions rest

/-! ### Texts in front of others -/

/-- The text has the pieces `ps`, whatever comes behind it. -/
def Yields (cs : List Char) (ps : List Piece) : Prop :=
  ∀ rest, pieces (.code []) (cs ++ rest) = ps ++ pieces (.code []) rest

theorem Yields.append {as bs : List Char} {ps qs : List Piece} (ha : Yields as ps)
    (hb : Yields bs qs) : Yields (as ++ bs) (ps ++ qs) := by
  intro rest
  rw [List.append_assoc, ha, hb, List.append_assoc]

theorem Yields.pieces_eq {cs : List Char} {ps : List Piece} (h : Yields cs ps) :
    pieces (.code []) cs = ps := by
  have hrest := h []
  rwa [List.append_nil, show pieces (.code []) [] = [] from rfl, List.append_nil] at hrest

theorem pieces_wordChar {c : Char} (hc : isWordChar c) (front rest : List Char) :
    pieces (.code front) (c :: rest) = pieces (.code (c :: front)) rest :=
  if_pos hc

theorem pieces_word {w : List Char} (hw : ∀ c ∈ w, isWordChar c) (front rest : List Char) :
    pieces (.code front) (w ++ rest) = pieces (.code (w.reverse ++ front)) rest := by
  induction w generalizing front with
  | nil => rfl
  | cons c w ih =>
    obtain ⟨hc, hw⟩ := List.forall_mem_cons.mp hw
    rw [List.cons_append, pieces_wordChar hc, ih hw, List.reverse_cons, List.append_assoc]
    rfl

/-- A word with a mark behind it. -/
theorem yields_word {w : List Char} {c : Char} (hfirst : w.head?.all Char.isDigit = false)
    (hw : ∀ d ∈ w, isWordChar d) (hc : (isWordChar c || isQuote c || c = '#') = false) :
    Yields (w ++ [c]) (.word w :: markPieces c) := by
  intro rest
  simp only [Bool.or_eq_false_iff, decide_eq_false_iff_not] at hc
  obtain ⟨⟨hword, hquote⟩, hhash⟩ := hc
  have hpiece : wordPieces w.reverse = [.word w] := by
    rw [wordPieces, List.getLast?_reverse, hfirst, List.reverse_reverse]
    rfl
  rw [List.append_assoc, pieces_word hw, List.append_nil, List.singleton_append, pieces,
    if_neg (by simp [hword]), if_neg (by simp [hquote]), if_neg hhash, hpiece]
  rfl

/-! ### Literals -/

/-- A character that needs no backslash is passed over. -/
theorem pieces_string_cons {q c : Char} (hback : c ≠ '\\') (hq : c ≠ q) (rest : List Char) :
    pieces (.string q false false) (c :: rest) = pieces (.string q false false) rest :=
  (if_neg hback).trans (if_neg hq)

/-- What a character is quoted as neither ends a literal nor counts. -/
theorem pieces_quoteChar (c : Char) (rest : List Char) :
    pieces (.string '\'' false false) (quoteChar c ++ rest) =
      pieces (.string '\'' false false) rest := by
  rcases quoteChar_cases c with ⟨d, heq, -⟩ | ⟨a, b, heq, hnumber, -⟩ | ⟨heq, hback, hquote, -⟩
  · rw [heq]
    rfl
  · -- two digits stand behind the backslash and its letter
    obtain ⟨⟨m, hm⟩, n, hn⟩ := hexDigit?_of_hexNumber? hnumber
    have ha := ordinary_of_hexDigit? hm
    have hb := ordinary_of_hexDigit? hn
    simp only [List.mem_cons, not_or] at ha hb
    rw [heq]
    exact (pieces_string_cons ha.1 ha.2.1 _).trans (pieces_string_cons hb.1 hb.2.1 rest)
  · rw [heq, List.singleton_append, pieces_string_cons hback hquote]

theorem pieces_quotedChars (cs rest : List Char) :
    pieces (.string '\'' false false) (cs.flatMap quoteChar ++ '\'' :: rest) =
      pieces (.code []) rest := by
  induction cs with
  | nil => rfl
  | cons c cs ih => rw [List.flatMap_cons, List.append_assoc, pieces_quoteChar, ih]

/-- A literal has no pieces, whatever text it is the literal of. -/
theorem yields_quoted (s : String) : Yields (quoted s).toList [] := by
  intro rest
  have hchars : (quoted s).toList ++ rest =
      '\'' :: (s.toList.flatMap quoteChar ++ '\'' :: rest) := by
    simp [quoted, quotedChars]
  rw [hchars]
  exact pieces_quotedChars s.toList rest

/-! ### Names taken from outside -/

theorem mem_words_of_mem_referredWords {ps : List Piece} {afterDot : Bool} {w : List Char}
    (h : w ∈ referredWords afterDot ps) : w ∈ words ps ∧ isKeyword w = false := by
  fun_induction referredWords afterDot ps with
  | case1 => simp at h
  | case2 afterDot c rest ih => exact ih h
  | case3 afterDot v rest _ ih => exact ⟨List.mem_cons_of_mem v (ih h).1, (ih h).2⟩
  | case4 afterDot v rest hlooked ih =>
    simp only [Bool.or_eq_true, not_or, Bool.not_eq_true] at hlooked
    rcases List.mem_cons.mp h with rfl | h
    · exact ⟨List.mem_cons_self, hlooked.1.2⟩
    · exact ⟨List.mem_cons_of_mem v (ih h).1, (ih h).2⟩

/-- What a line takes from outside is a word of it that is neither a keyword nor looped over. -/
theorem mem_lineGlobals {line : List Char} {ps : List Piece} (hps : Yields line ps)
    {w : List Char} (h : w ∈ lineGlobals line) :
    w ∈ words ps ∧ isKeyword w = false ∧ w ∉ loopTargets false ps := by
  obtain ⟨hreferred, hfree⟩ := List.mem_filter.mp h
  rw [hps.pieces_eq] at hreferred hfree
  obtain ⟨hword, hkeyword⟩ := mem_words_of_mem_referredWords hreferred
  exact ⟨hword, hkeyword, by simpa using hfree⟩

/-- What comes right behind `for` is looped over. -/
theorem mem_loopTargets {w : List Char} (hfor : w ≠ ['f', 'o', 'r']) (hin : w ≠ ['i', 'n'])
    (inside : Bool) (front rest : List Piece) :
    w ∈ loopTargets inside (front ++ .word ['f', 'o', 'r'] :: .word w :: rest) := by
  induction front generalizing inside with
  | nil => simp [loopTargets, hfor, hin]
  | cons p front ih =>
    cases p with
    | mark c => exact ih inside
    | word v =>
      rw [List.cons_append, loopTargets]
      split_ifs
      · exact ih true
      · exact ih false
      · exact List.mem_cons_of_mem v (ih true)
      · exact ih false

end ReportCompiler.Target
