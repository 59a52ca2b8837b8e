import ReportCompiler.Text.Hex

/-!
# Strings of TOML documents

A string stands on one line or between triple quotes on several, and with double quotes it may hold
escapes.  Each reader starts after the opening quotes and gives the characters of the string and the
text after its closing quotes.

* `readBasic`, `readLiteral` - on one line, with and without escapes.
* `readBasicBlock`, `readLiteralBlock` - on several lines.
* `readText` - any string, from its opening quotes on.
-/

namespace ReportCompiler.Toml

/-- A string that was read, and the text after it. -/
abbrev Taken := List Char × List Char

/-- One more character in front of what was read. -/
def Taken.cons (c : Char) (t : Taken) : Taken :=
  (c :: t.1, t.2)

/-- A blank within a line. -/
def isBlankChar (c : Char) : Bool :=
  c = ' ' || c = '\t'

/-- A character that may stand in comments and strings: a tab, and everything but control
characters. -/
def isPlainChar (c : Char) : Bool :=
  c = '\t' || (32 ≤ c.toNat && c.toNat ≠ 127)

/-- The character whose code point is written by hexadecimal digits. -/
def hexChar? (cs : List Char) : Option Char := do
  let n ← Text.hexNumber? cs
  if n.isValidChar then some (Char.ofNat n) else none

/-- The character that a backslash and this one stand for. -/
def escapedChar? (c : Char) : Option Char :=
  match c with
  | 'b' => some '\x08'
  | 't' => some '\t'
  | 'n' => some '\n'
  | 'f' => some '\x0c'
  | 'r' => some '\r'
  | '"' => some '"'
  | '\\' => some '\\'
  | _ => none

/-- A string with escapes on one line. -/
def readBasic : List Char → Option Taken
  | [] => none
  | '"' :: rest => some ([], rest)
  | '\\' :: 'u' :: a :: b :: c :: d :: rest => do
    let x ← hexChar? [a, b, c, d]
    return (← readBasic rest).cons x
  | '\\' :: 'U' :: a :: b :: c :: d :: e :: f :: g :: h :: rest => do
    let x ← hexChar? [a, b, c, d, e, f, g, h]
    return (← readBasic rest).cons x
  | '\\' :: c :: rest => do
    let x ← escapedChar? c
    return (← readBasic rest).cons x
  | c :: rest => if isPlainChar c && c != '\\' then (readBasic rest).map (Taken.cons c) else none

/-- A string without escapes on one line. -/
def readLiteral : List Char → Option Taken
  | [] => none
  | '\'' :: rest => some ([], rest)
  | c :: rest => if isPlainChar c then (readLiteral rest).map (Taken.cons c) else none

/-- The text begins with the end of a line. -/
def atLineEnd : List Char → Bool
  | '\n' :: _ => true
  | '\r' :: '\n' :: _ => true
  | _ => false

/-- The text after an end of line that it may begin with. -/
def dropLineEnd : List Char → List Char
  | '\n' :: rest => rest
  | '\r' :: '\n' :: rest => rest
  | cs => cs

/-- Only blanks are left on the line. -/
def lineIsBlank (cs : List Char) : Bool :=
  atLineEnd (cs.dropWhile isBlankChar)

/-- A string with escapes on several lines.  A backslash at the end of a line drops it and all
blanks and ends of line that follow; `dropping` says that such blanks are being dropped. -/
def readBasicBlock (dropping : Bool) : List Char → Option Taken
  | [] => none
  | '"' :: '"' :: '"' :: '"' :: '"' :: rest => some (['"', '"'], rest)
  | '"' :: '"' :: '"' :: '"' :: rest => some (['"'], rest)
  | '"' :: '"' :: '"' :: rest => some ([], rest)
  | '\r' :: '\n' :: rest =>
    if dropping then readBasicBlock true rest
    else (readBasicBlock false rest).map (Taken.cons '\n')
  | '\n' :: rest =>
    if dropping then readBasicBlock true rest
    else (readBasicBlock false rest).map (Taken.cons '\n')
  | '\\' :: 'u' :: a :: b :: c :: d :: rest => do
    let x ← hexChar? [a, b, c, d]
    return (← readBasicBlock false rest).cons x
  | '\\' :: 'U' :: a :: b :: c :: d :: e :: f :: g :: h :: rest => do
    let x ← hexChar? [a, b, c, d, e, f, g, h]
    return (← readBasicBlock false rest).cons x
  | '\\' :: c :: rest =>
    if lineIsBlank (c :: rest) then readBasicBlock true (c :: rest)
    else do
      let x ← escapedChar? c
      return (← readBasicBlock false rest).cons x
  | c :: rest =>
    if dropping && isBlankChar c then readBasicBlock true rest
    else if isPlainChar c && c != '\\' then (readBasicBlock false rest).map (Taken.cons c)
    else none

/-- A string without escapes on several lines. -/
def readLiteralBlock : List Char → Option Taken
  | [] => none
  | '\'' :: '\'' :: '\'' :: '\'' :: '\'' :: rest => some (['\'', '\''], rest)
  | '\'' :: '\'' :: '\'' :: '\'' :: rest => some (['\''], rest)
  | '\'' :: '\'' :: '\'' :: rest => some ([], rest)
  | '\r' :: '\n' :: rest => (readLiteralBlock rest).map (Taken.cons '\n')
  | '\n' :: rest => (readLiteralBlock rest).map (Taken.cons '\n')
  | c :: rest => if isPlainChar c then (readLiteralBlock rest).map (Taken.cons c) else none

/-- A string on one line, from its opening quote on. -/
def readLine : List Char → Option Taken
  | '"' :: rest => readBasic rest
  | '\'' :: rest => readLiteral rest
  | _ => none

/-- Any string, from its opening quotes on. -/
def readText : List Char → Option Taken
  | '"' :: '"' :: '"' :: rest => readBasicBlock false (dropLineEnd rest)
  | '\'' :: '\'' :: '\'' :: rest => readLiteralBlock (dropLineEnd rest)
  | cs => readLine cs

end ReportCompiler.Toml
