import ReportCompiler.Toml.Scalar

/-!
# Reading TOML documents

A document is a list of lines.  Each sets a field, opens a table by a header, or is blank; values in
brackets and block strings may go on over several lines.

* `readValue` - a value, in which brackets nest only so deeply.
* `readKey` - a key.
* `Document` - the document so far, with the table that is open.
* `parse?` - a whole document.

Loops count down from the length of the text, since every round of them takes at least one
character.
-/

namespace ReportCompiler.Toml

/-- The number of brackets that may stand inside each other. -/
def maxDepth : Nat := 80

/-- The text after blanks. -/
def dropBlanks (cs : List Char) : List Char :=
  cs.dropWhile isBlankChar

/-- The text at the end of its first line, if only blanks and a comment are left on that line. -/
def dropComment (cs : List Char) : List Char :=
  match dropBlanks cs with
  | '#' :: rest => rest.dropWhile isPlainChar
  | rest => rest

/-- The text after blanks, comments and ends of line. -/
def dropLines : Nat → List Char → List Char
  | 0, cs => cs
  | n + 1, cs =>
    let rest := dropComment cs
    if atLineEnd rest then dropLines n (dropLineEnd rest) else rest

/-- The text after blanks, comments and ends of line. -/
def dropSpace (cs : List Char) : List Char :=
  dropLines cs.length cs

/-! ### Keys -/

/-- A character of a name without quotes. -/
def isNameChar (c : Char) : Bool :=
  c.isAlphanum || c = '_' || c = '-'

/-- A name, with or without quotes. -/
def readName (cs : List Char) : Option Taken :=
  match cs with
  | '"' :: _ => readLine cs
  | '\'' :: _ => readLine cs
  | _ =>
    let name := cs.takeWhile isNameChar
    if name.isEmpty then none else some (name, cs.dropWhile isNameChar)

/-- The names of a dotted key. -/
def readNames : Nat → List Char → Option (List String × List Char)
  | 0, _ => none
  | n + 1, cs => do
    let (name, rest) ← readName (dropBlanks cs)
    match dropBlanks rest with
    | '.' :: rest =>
      let (names, rest) ← readNames n rest
      return (String.ofList name :: names, rest)
    | rest => return ([String.ofList name], rest)

/-- The key of a list of names. -/
def Key.ofNames? (names : List String) : Option Key :=
  names.getLast?.map fun name => ⟨names.dropLast, name⟩

/-- A key, and the text after it and its blanks. -/
def readKey (cs : List Char) : Option (Key × List Char) := do
  let (names, rest) ← readNames cs.length cs
  return (← Key.ofNames? names, rest)

/-! ### Values -/

/-- A reader of values. -/
abbrev ValueReader := List Char → Option (Value × List Char)

/-- The values of an array after its opening bracket or a comma. -/
def readItems (item : ValueReader) : Nat → List Char → Option (List Value × List Char)
  | 0, _ => none
  | n + 1, cs =>
    match dropSpace cs with
    | ']' :: rest => some ([], rest)
    | cs => do
      let (v, rest) ← item cs
      match dropSpace rest with
      | ',' :: rest =>
        let (vs, rest) ← readItems item n rest
        return (v :: vs, rest)
      | ']' :: rest => return ([v], rest)
      | _ => none

/-- A field: a key, an equals sign and a value. -/
def readField (item : ValueReader) (cs : List Char) : Option ((Key × Value) × List Char) := do
  let (k, rest) ← readKey cs
  match rest with
  | '=' :: rest =>
    let (v, rest) ← item (dropBlanks rest)
    return ((k, v), rest)
  | _ => none

/-- The fields of a table in braces, set one after the other.  There is at least one. -/
def readFields (item : ValueReader) : Nat → Fields → List Char → Option (Fields × List Char)
  | 0, _, _ => none
  | n + 1, fs, cs => do
    let ((k, v), rest) ← readField item cs
    let fs ← assign k v fs
    match dropBlanks rest with
    | ',' :: rest => readFields item n fs rest
    | '}' :: rest => return (fs, rest)
    | _ => none

/-- A table in braces, after the opening brace. -/
def readBraces (item : ValueReader) (cs : List Char) : Option (Value × List Char) :=
  match dropBlanks cs with
  | '}' :: rest => some (.table .braces [], rest)
  | cs => (readFields item cs.length [] cs).map fun (fs, rest) => (.table .braces fs, rest)

/-- A value. -/
def readValue : (depth : Nat) → ValueReader
  | 0, _ => none
  | depth + 1, cs =>
    match cs with
    | '[' :: rest =>
      (readItems (readValue depth) cs.length rest).map fun (vs, rest) => (.array vs, rest)
    | '{' :: rest => readBraces (readValue depth) rest
    | '"' :: _ => (readText cs).map fun (s, rest) => (.text (String.ofList s), rest)
    | '\'' :: _ => (readText cs).map fun (s, rest) => (.text (String.ofList s), rest)
    | _ =>
      let (word, rest) := splitWord cs
      (scalar? word).map fun v => (v, rest)

/-! ### Documents -/

/-- A document so far. -/
structure Document where
  /-- Its fields. -/
  fields : Fields := []
  /-- The names that lead to the table that is open. -/
  current : List String := []

namespace Document

/-- The names of a header, which is closed by `closers`. -/
def readHeader (closers : List Char) (cs : List Char) : Option (Key × List Char) := do
  let (k, rest) ← readKey cs
  if closers.isPrefixOf rest then some (k, rest.drop closers.length) else none

/-- What one line does to the document, and the text at the end of the line. -/
def readStatement (d : Document) (cs : List Char) : Option (Document × List Char) :=
  match cs with
  | [] => some (d, [])
  | '\n' :: _ => some (d, cs)
  | '\r' :: _ => some (d, cs)
  | '#' :: _ => some (d, cs)
  | '[' :: '[' :: rest => do
    let (k, rest) ← readHeader [']', ']'] rest
    return (⟨← openArray k d.fields, k.parents ++ [k.name]⟩, rest)
  | '[' :: rest => do
    let (k, rest) ← readHeader [']'] rest
    return (⟨← openTable k d.fields, k.parents ++ [k.name]⟩, rest)
  | _ => do
    let ((k, v), rest) ← readField (readValue maxDepth) cs
    return ({ d with fields := ← within (assign k v) d.current d.fields }, rest)

/-- The document after all lines of a text. -/
def readAll : Nat → Document → List Char → Option Document
  | 0, _, _ => none
  | n + 1, d, cs => do
    let (d, rest) ← readStatement d (dropBlanks cs)
    match dropComment rest with
    | [] => return d
    | rest => if atLineEnd rest then readAll n d (dropLineEnd rest) else none

end Document

/-- A text without the mark that some begin with. -/
def dropMark : List Char → List Char
  | c :: rest => if c.toNat = 0xFEFF then rest else c :: rest
  | [] => []

/-- The fields of a document. -/
def parse? (s : String) : Option Fields :=
  let cs := dropMark s.toList
  (Document.readAll (cs.length + 1) {} cs).map Document.fields

end ReportCompiler.Toml
