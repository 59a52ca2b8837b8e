import ReportCompiler.Files.Tree

/-!
# Patterns of paths

A pattern is a path whose components may hold wildcards: `?` for any character, `*` for any
characters, brackets for one of several characters, and two stars alone for any directories.

* `Glob` - the pattern of one component, with `Glob.parse?` and `Glob.accepts`.
* `Tree.globCount?` - the number of files and directories that a pattern finds.
-/

namespace ReportCompiler.Files

/-- What stands between brackets: a character, or a range of characters. -/
structure CharClass where
  /-- The first character. -/
  first : Char
  /-- The last character. -/
  last : Char
  deriving DecidableEq, Repr

/-- A part of a pattern. -/
inductive GlobToken
  /-- The character itself. -/
  | char (c : Char)
  /-- Any character. -/
  | anyChar
  /-- Any characters. -/
  | anySequence
  /-- A character that is in one of the classes, or with `negated` in none of them. -/
  | oneOf (negated : Bool) (classes : List CharClass)
  deriving DecidableEq, Repr

/-- The pattern of a component. -/
inductive Glob
  /-- Any number of directories. -/
  | directories
  /-- A pattern of names. -/
  | name (tokens : List GlobToken)
  deriving DecidableEq, Repr

/-- The classes between brackets. -/
def charClasses : List Char → List CharClass
  | a :: '-' :: b :: rest => ⟨a, b⟩ :: charClasses rest
  | c :: rest => ⟨c, c⟩ :: charClasses rest
  | [] => []

/-- The text up to a closing bracket that is not its first character, and the text after the
bracket. -/
def splitBracket : List Char → Option (List Char × List Char)
  | [] => none
  | c :: rest =>
    let inner := rest.takeWhile (· != ']')
    match rest.dropWhile (· != ']') with
    | _ :: after => some (c :: inner, after)
    | [] => none

/-- The tokens of a component.  A bracket that is not closed and two stars beside each other are
refused.  `fuel` is at least the length of the text. -/
def globTokens : (fuel : Nat) → List Char → Option (List GlobToken)
  | _, [] => some []
  | 0, _ => none
  | n + 1, c :: rest =>
    if c = '?' then (globTokens n rest).map (.anyChar :: ·)
    else if c = '*' then
      if rest.head? = some '*' then none else (globTokens n rest).map (.anySequence :: ·)
    else if c = '[' then
      let negated := rest.head? = some '!'
      match splitBracket (if negated then rest.drop 1 else rest) with
      | some (inner, after) => (globTokens n after).map (.oneOf negated (charClasses inner) :: ·)
      | none => none
    else (globTokens n rest).map (.char c :: ·)

/-- The pattern of a component. -/
def Glob.parse? (component : String) : Option Glob :=
  if component = "**" then some .directories
  else (globTokens component.length component.toList).map .name

/-- A character fits a token for one character. -/
def GlobToken.accepts (c : Char) : GlobToken → Bool
  | char d => c = d
  | anyChar => true
  | anySequence => false
  | oneOf negated classes => negated != classes.any fun k => k.first ≤ c && c ≤ k.last

/-- All ends of a text, the whole text first. -/
def endings : List Char → List (List Char)
  | [] => [[]]
  | c :: rest => (c :: rest) :: endings rest

/-- A text fits tokens. -/
def fits : List GlobToken → List Char → Bool
  | [], cs => cs.isEmpty
  | .anySequence :: ts, cs => (endings cs).any (fits ts)
  | t :: ts, c :: cs => t.accepts c && fits ts cs
  | _ :: _, [] => false

/-- The character that a token without wildcards stands for. -/
def GlobToken.plain? : GlobToken → Option Char
  | char c => some c
  | _ => none

/-- The name that tokens without wildcards stand for. -/
def plainName? (tokens : List GlobToken) : Option String :=
  (tokens.mapM GlobToken.plain?).map String.ofList

namespace Tree

/-- The last of the names fits tokens. -/
def nameFits (tokens : List GlobToken) (names : List String) : Bool :=
  match names.getLast? with
  | some name => fits tokens name.toList
  | none => false

/-- The dots that tokens with wildcards find beside the names of a directory.  They must begin with
a dot. -/
def dotEntries (tokens : List GlobToken) (dir : List String) : List (List String) :=
  if tokens.head? = some (.char '.') then
    (if fits tokens ['.'] then [dir] else []) ++
      (if fits tokens ['.', '.'] then (above? dir).toList else [])
  else []

/-- The sum of numbers. -/
def total (ns : List Nat) : Nat :=
  ns.foldl (· + ·) 0

/-- The number of nodes that patterns find below `dir`, if it leads to a directory.  An empty
component is fine except at the start, where the path it would make is empty. -/
def count (t : Tree) : (atStart : Bool) → List Glob → List String → Nat
  | _, [], _ => 1
  | atStart, .name tokens :: rest, dir =>
    if t.find? dir ≠ some .directory then 0
    else match plainName? tokens with
      | some "" => if atStart then 0 else t.count false rest dir
      | some "." => t.count atStart rest dir
      | some ".." =>
        match above? dir with
        | some up => t.count false rest up
        | none => 0
      | some name =>
        if (t.find? (dir ++ [name])).isSome then t.count false rest (dir ++ [name]) else 0
      | none =>
        total (((t.children dir).filter (nameFits tokens) ++ dotEntries tokens dir).map
          (t.count false rest))
  | _, .directories :: .directories :: rest, dir => t.count false (.directories :: rest) dir
  | _, .directories :: .name tokens :: rest, dir =>
    total (((t.below dir).filter (nameFits tokens)).map (t.count false rest))
  | _, [.directories], dir =>
    ((t.below dir).filter fun names => t.find? names = some .directory).length

/-- The number of files and directories that a pattern finds, if it is one. -/
def globCount? (t : Tree) (pattern : String) : Option Nat :=
  if isAbsolute pattern then
    ((partsOf pattern).tail.mapM Glob.parse?).map fun globs => t.count false globs ["/"]
  else ((partsOf pattern).mapM Glob.parse?).map fun globs => t.count true globs []

end Tree

end ReportCompiler.Files
