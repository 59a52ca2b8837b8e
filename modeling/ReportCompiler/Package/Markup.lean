/-!
# Elements of markup

The parts of a package are written in XML.  Here only the elements matter, with their attributes as
they are written; texts, comments, declarations and character data are skipped.

* `Element` - a name and its attributes.
* `elements` - the elements of a text, in the order of their opening tags, up to the first place
  that is not well-formed.
-/

namespace ReportCompiler.Markup

/-- An element, by its opening tag. -/
structure Element where
  /-- The name. -/
  name : List Char
  /-- The attributes, in order, each with the text between its quotes. -/
  attributes : List (List Char × List Char)
  deriving DecidableEq, Repr

/-- A blank between the parts of a tag. -/
def isBlankChar (c : Char) : Bool :=
  c = ' ' || c = '\n' || c = '\t' || c = '\r'

/-- The text up to the first place of `mark`, and the text after it. -/
def splitAtMark (mark : List Char) : List Char → Option (List Char × List Char)
  | [] => none
  | c :: rest =>
    if mark.isPrefixOf (c :: rest) then some ([], (c :: rest).drop mark.length)
    else (splitAtMark mark rest).map fun (before, after) => (c :: before, after)

/-! ### Attributes -/

/-- The text after a value without quotes, which goes on to the next blank. -/
def dropUnquoted (cs : List Char) : List Char :=
  cs.dropWhile fun c => !isBlankChar c

/-- The attributes of a tag.  One without value, without quotes around its value, or with a name
that the tag had before is left out; the others stay.  `fuel` is at least the length of the text. -/
def readAttributes : (fuel : Nat) → (seen : List (List Char)) → List Char →
    List (List Char × List Char)
  | 0, _, _ => []
  | n + 1, seen, cs =>
    match cs.dropWhile isBlankChar with
    | [] => []
    | c :: rest =>
      let isKeyChar := fun c => c != '=' && !isBlankChar c
      let key := c :: rest.takeWhile isKeyChar
      match (rest.dropWhile isKeyChar).dropWhile isBlankChar with
      | '=' :: rest =>
        match rest.dropWhile isBlankChar with
        | [] => []
        | quote :: rest =>
          if quote = '"' || quote = '\'' then
            match splitAtMark [quote] rest with
            | none => []
            | some (value, rest) =>
              if seen.contains key then readAttributes n seen rest
              else (key, value) :: readAttributes n (key :: seen) rest
          else readAttributes n (key :: seen) (dropUnquoted (quote :: rest))
      | rest => readAttributes n seen rest

/-! ### Tags -/

/-- The text of a tag up to its closing bracket, and the text after it.  Brackets between quotes do
not close it. -/
def splitTag (quote : Option Char) : List Char → Option (List Char × List Char)
  | [] => none
  | c :: rest =>
    let next := match quote with
      | some q => if c = q then none else quote
      | none => if c = '"' || c = '\'' then some c else none
    if c = '>' && quote.isNone then some ([], rest)
    else (splitTag next rest).map fun (tag, after) => (c :: tag, after)

/-- The text of a tag without the slash at its end, and whether it has one, so that the element is
empty. -/
def splitSlashEnd (tag : List Char) : List Char × Bool :=
  match tag.reverse with
  | '/' :: before => (before.reverse, true)
  | _ => (tag, false)

/-- The element of the text of an opening tag. -/
def elementOf (tag : List Char) : Element :=
  let rest := tag.dropWhile fun c => !isBlankChar c
  ⟨tag.takeWhile fun c => !isBlankChar c, readAttributes rest.length [] rest⟩

/-- A text without blanks at its end. -/
def dropEndBlanks (cs : List Char) : List Char :=
  (cs.reverse.dropWhile isBlankChar).reverse

/-! ### What is skipped -/

/-- The text after a document type, in which brackets nest. -/
def dropDoctype (depth : Nat) : List Char → Option (List Char)
  | [] => none
  | '<' :: rest => dropDoctype (depth + 1) rest
  | '>' :: rest =>
    match depth with
    | 0 => some rest
    | d + 1 => dropDoctype d rest
  | _ :: rest => dropDoctype depth rest

/-- The text after a comment, character data or a document type, from behind its exclamation mark
on. -/
def dropDeclaration (cs : List Char) : Option (List Char) :=
  match cs with
  | '-' :: '-' :: rest => (splitAtMark ['-', '-', '>'] rest).map Prod.snd
  | '[' :: 'C' :: 'D' :: 'A' :: 'T' :: 'A' :: '[' :: rest =>
    (splitAtMark [']', ']', '>'] rest).map Prod.snd
  | _ =>
    if (cs.take 7).map Char.toUpper = "DOCTYPE".toList then dropDoctype 0 (cs.drop 7) else none

/-- The text after a character reference, from behind its ampersand on.  It ends with a semicolon
before any other markup begins. -/
def dropReference : List Char → Option (List Char)
  | [] => none
  | c :: rest =>
    if c = ';' then some rest
    else if c = '&' || c = '<' then none
    else dropReference rest

/-! ### Elements -/

/-- The elements of a text inside the elements named by `parents`, the innermost first.  `fuel` is
at least the length of the text. -/
def readElements : (fuel : Nat) → (parents : List (List Char)) → List Char → List Element
  | 0, _, _ => []
  | n + 1, parents, cs =>
    match cs.dropWhile fun c => c != '<' && c != '&' with
    | '&' :: rest =>
      match dropReference rest with
      | some rest => readElements n parents rest
      | none => []
    | '<' :: '!' :: rest =>
      match dropDeclaration rest with
      | some rest => readElements n parents rest
      | none => []
    | '<' :: '?' :: rest =>
      match splitAtMark ['?', '>'] rest with
      | some (_, rest) => readElements n parents rest
      | none => []
    | '<' :: '/' :: rest =>
      match splitAtMark ['>'] rest, parents with
      | some (name, rest), parent :: parents =>
        if dropEndBlanks name = parent then readElements n parents rest else []
      | _, _ => []
    | '<' :: rest =>
      match splitTag none rest with
      | none => []
      | some (tag, rest) =>
        let (tag, isEmpty) := splitSlashEnd tag
        let element := elementOf tag
        element :: readElements n (if isEmpty then parents else element.name :: parents) rest
    | _ => []

/-- The elements of a text, up to the first place that is not well-formed. -/
def elements (text : String) : List Element :=
  let cs := text.toList
  readElements cs.length [] cs

end ReportCompiler.Markup
