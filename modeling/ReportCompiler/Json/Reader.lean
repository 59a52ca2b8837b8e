import ReportCompiler.Json.Number
import ReportCompiler.Text.Hex

/-!
# Reading JSON documents

Reading is strict: there is nothing but blanks around the value, no comma too many, no raw control
character and no half of a surrogate pair in a text, and brackets nest only so deeply.

* `readString` - a text, after its opening quote.
* `readValue` - a value.
* `parse?` - a whole document.

Loops count down from the length of the text, since every round of them takes at least one
character.
-/

namespace ReportCompiler.Json

/-- The number of brackets that may stand inside each other. -/
def maxDepth : Nat := 127

/-- A blank between the parts of a document. -/
def isBlankChar (c : Char) : Bool :=
  c = ' ' || c = '\n' || c = '\t' || c = '\r'

/-- The text after blanks. -/
def dropBlanks (cs : List Char) : List Char :=
  cs.dropWhile isBlankChar

/-! ### Texts -/

/-- The character that a backslash and this one stand for. -/
def escapedChar? (c : Char) : Option Char :=
  match c with
  | '"' => some '"'
  | '\\' => some '\\'
  | '/' => some '/'
  | 'b' => some '\x08'
  | 'f' => some '\x0c'
  | 'n' => some '\n'
  | 'r' => some '\r'
  | 't' => some '\t'
  | _ => none

/-- The code unit begins a surrogate pair. -/
def isLeading (n : Nat) : Bool :=
  0xD800 ≤ n && n < 0xDC00

/-- The code unit ends a surrogate pair. -/
def isTrailing (n : Nat) : Bool :=
  0xDC00 ≤ n && n < 0xE000

/-- The character of a code unit that stands alone. -/
def unitChar? (n : Nat) : Option Char :=
  if isLeading n || isTrailing n then none else some (Char.ofNat n)

/-- The character of a surrogate pair. -/
def pairChar? (lead trail : Nat) : Option Char :=
  if isLeading lead && isTrailing trail then
    some (Char.ofNat (0x10000 + (lead - 0xD800) * 0x400 + (trail - 0xDC00)))
  else none

/-- The escape of a code unit begins a surrogate pair. -/
def startsPair (a b c d : Char) : Bool :=
  match Text.hexNumber? [a, b, c, d] with
  | some n => isLeading n
  | none => false

/-- One more character in front of a text that was read. -/
def consChar (c : Char) (taken : List Char × List Char) : List Char × List Char :=
  (c :: taken.1, taken.2)

/-- A text after its opening quote, and what follows its closing quote. -/
def readString : List Char → Option (List Char × List Char)
  | [] => none
  | '"' :: rest => some ([], rest)
  | '\\' :: 'u' :: a :: b :: c :: d :: '\\' :: 'u' :: e :: f :: g :: h :: rest =>
    if startsPair a b c d then do
      let x ← pairChar? (← Text.hexNumber? [a, b, c, d]) (← Text.hexNumber? [e, f, g, h])
      return consChar x (← readString rest)
    else do
      let x ← unitChar? (← Text.hexNumber? [a, b, c, d])
      return consChar x (← readString ('\\' :: 'u' :: e :: f :: g :: h :: rest))
  | '\\' :: 'u' :: a :: b :: c :: d :: rest => do
    let x ← unitChar? (← Text.hexNumber? [a, b, c, d])
    return consChar x (← readString rest)
  | '\\' :: c :: rest => do
    let x ← escapedChar? c
    return consChar x (← readString rest)
  | c :: rest =>
    if 32 ≤ c.toNat && c != '\\' then (readString rest).map (consChar c) else none

/-! ### Values -/

/-- A reader of values. -/
abbrev ValueReader := List Char → Option (Value × List Char)

/-- The values of an array after its opening bracket or a comma. There is at least one. -/
def readItems (item : ValueReader) : Nat → List Char → Option (List Value × List Char)
  | 0, _ => none
  | n + 1, cs => do
    let (v, rest) ← item (dropBlanks cs)
    match dropBlanks rest with
    | ',' :: rest =>
      let (vs, rest) ← readItems item n rest
      return (v :: vs, rest)
    | ']' :: rest => return ([v], rest)
    | _ => none

/-- An array after its opening bracket. -/
def readArray (item : ValueReader) (cs : List Char) : Option (Value × List Char) :=
  match dropBlanks cs with
  | ']' :: rest => some (.array [], rest)
  | cs => (readItems item cs.length cs).map fun (vs, rest) => (.array vs, rest)

/-- A field: a text, a colon and a value. -/
def readField (item : ValueReader) (cs : List Char) : Option ((String × Value) × List Char) :=
  match cs with
  | '"' :: rest => do
    let (name, rest) ← readString rest
    match dropBlanks rest with
    | ':' :: rest =>
      let (v, rest) ← item (dropBlanks rest)
      return ((String.ofList name, v), rest)
    | _ => none
  | _ => none

/-- The fields of an object after its opening brace or a comma.  There is at least one. -/
def readFields (item : ValueReader) : Nat → List Char → Option (List (String × Value) × List Char)
  | 0, _ => none
  | n + 1, cs => do
    let (field, rest) ← readField item (dropBlanks cs)
    match dropBlanks rest with
    | ',' :: rest =>
      let (fields, rest) ← readFields item n rest
      return (field :: fields, rest)
    | '}' :: rest => return ([field], rest)
    | _ => none

/-- An object after its opening brace. -/
def readObject (item : ValueReader) (cs : List Char) : Option (Value × List Char) :=
  match dropBlanks cs with
  | '}' :: rest => some (.object [], rest)
  | cs => (readFields item cs.length cs).map fun (fields, rest) => (.ofFields fields, rest)

/-- A value without brackets. -/
def readScalar (cs : List Char) : Option (Value × List Char) :=
  match cs with
  | 'n' :: 'u' :: 'l' :: 'l' :: rest => some (.null, rest)
  | 't' :: 'r' :: 'u' :: 'e' :: rest => some (.bool true, rest)
  | 'f' :: 'a' :: 'l' :: 's' :: 'e' :: rest => some (.bool false, rest)
  | '"' :: rest => (readString rest).map fun (s, rest) => (.text (String.ofList s), rest)
  | _ => readNumber cs

/-- A value. -/
def readValue : (depth : Nat) → ValueReader
  | 0, cs =>
    match cs with
    | '[' :: _ => none
    | '{' :: _ => none
    | _ => readScalar cs
  | depth + 1, cs =>
    match cs with
    | '[' :: rest => readArray (readValue depth) rest
    | '{' :: rest => readObject (readValue depth) rest
    | _ => readScalar cs

/-- The value of a document. -/
def parse? (s : String) : Option Value := do
  let (v, rest) ← readValue maxDepth (dropBlanks s.toList)
  if (dropBlanks rest).isEmpty then some v else none

end ReportCompiler.Json
