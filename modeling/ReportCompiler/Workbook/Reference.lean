import ReportCompiler.Workbook.Basic

/-!
# References

The text of a reference names a cell or a range: a coordinate, a range of two coordinates, either of
them on a sheet given in front, or a defined name, which stands for another such text.

* `Unresolved` - why a reference names nothing.
* `splitSheet` - the sheet in front of a coordinate, with its quotes removed.
* `Workbook.resolve` - the cells that a reference names, seen from a sheet.
* `Workbook.resolveCell` - the one cell that it names.
-/

namespace ReportCompiler

/-- Why a reference names nothing. -/
inductive Unresolved
  /-- It is blank. -/
  | empty
  /-- It is on a sheet of another workbook. -/
  | external
  /-- It is a name that leads through too many other names. -/
  | chainTooDeep
  /-- Its sheet is not in the workbook. -/
  | noSheet (name : String)
  /-- Its sheet is quoted and no exclamation mark follows. -/
  | quotedSheetAlone
  /-- Its sheet has no closing quote. -/
  | unterminatedSheet
  /-- Its two corners lie on different sheets. -/
  | spansSheets
  /-- It has no coordinate where one should be. -/
  | malformed
  /-- It is a range of too many cells. -/
  | tooLarge (height width : Nat)
  /-- It is neither a coordinate nor a defined name. -/
  | unknown
  /-- It is a range where one cell should be. -/
  | notSingle
  /-- The sheet of the report is not in the workbook. -/
  | reportSheetMissing
  /-- It is not a coordinate within the limits of a sheet. -/
  | notCoordinate
  /-- The header above an event cell is blank. -/
  | emptyHeader (header : Address)
  /-- Another reason, in words. -/
  | stated (reason : String)
  deriving DecidableEq, Repr

/-- The most cells that a range may have. -/
def maxRangeCells : Nat := 65536

/-- The most defined names that a reference may lead through. -/
def maxNameSteps : Nat := 8

/-- The reason in words. -/
def Unresolved.message : Unresolved → String
  | empty => "empty reference"
  | external => "external workbook references are not supported"
  | chainTooDeep => "defined name chain too deep"
  | noSheet name => "no sheet named '" ++ name ++ "'"
  | quotedSheetAlone => "quoted sheet name must be followed by '!'"
  | unterminatedSheet => "unterminated quoted sheet name"
  | spansSheets => "range spans sheets"
  | malformed => "malformed cell reference (whole rows/columns are not supported)"
  | tooLarge height width =>
    "range of " ++ toString height ++ "x" ++ toString width ++ " cells exceeds the limit of " ++
      toString maxRangeCells
  | unknown => "not a cell reference or defined name"
  | notSingle => "expected a single cell, got a range"
  | reportSheetMissing => "report sheet not found in workbook"
  | notCoordinate => "not a cell coordinate"
  | emptyHeader header => "event header " ++ header.text ++ " is empty"
  | stated reason => reason

/-- A reference that names nothing, and why. -/
structure ReferenceError where
  /-- The reference. -/
  reference : String
  /-- Why it names nothing. -/
  reason : Unresolved
  deriving DecidableEq, Repr

/-- What a reference names. -/
inductive Resolved
  /-- One cell. -/
  | cell (a : Address)
  /-- The cells of a range, row by row. -/
  | range (cells : List Address)
  deriving DecidableEq, Repr

/-- The cells that a reference names. -/
def Resolved.cells : Resolved → List Address
  | cell a => [a]
  | range cells => cells

/-- The text up to the first `sep`, and the text after it. -/
def splitOnce (sep : Char) : List Char → Option (List Char × List Char)
  | [] => none
  | c :: rest =>
    if c = sep then some ([], rest)
    else (splitOnce sep rest).map fun (before, after) => (c :: before, after)

/-- A quoted title read after its opening quote: the title with doubled quotes made single, and the
text after the closing quote. -/
def unquoteTitle : List Char → Option (List Char × List Char)
  | [] => none
  | c :: rest =>
    if c = '\'' then
      match rest with
      | d :: rest' =>
        if d = '\'' then (unquoteTitle rest').map fun (title, after) => (c :: title, after)
        else some ([], rest)
      | [] => some ([], rest)
    else (unquoteTitle rest).map fun (title, after) => (c :: title, after)

/-- The sheet in front of a coordinate, without its quotes, and the text after it. -/
def splitSheet (cs : List Char) : Except Unresolved (Option (List Char) × List Char) :=
  match cs with
  | '\'' :: rest =>
    match unquoteTitle rest with
    | none => .error .unterminatedSheet
    | some (title, '!' :: coord) => .ok (some title, coord)
    | some _ => .error .quotedSheetAlone
  | _ =>
    match splitOnce '!' cs with
    | some (title, coord) => .ok (some title, coord)
    | none => .ok (none, cs)

/-- The second half of a range, which may name the sheet of the first half again. -/
def secondHalf (sheet : String) (cs : List Char) : Except Unresolved (List Char) :=
  match splitSheet cs with
  | .ok (none, coord) => .ok coord
  | .ok (some other, coord) =>
    if Text.sameFold (String.ofList other) sheet then .ok coord else .error .spansSheets
  | .error _ => .error .spansSheets

/-- The numbers from one to another, both included, in increasing order. -/
def span (a b : Nat) : List Nat :=
  (List.range (max a b + 1 - min a b)).map (min a b + ·)

/-- The distance between two numbers, both counted. -/
def extent (a b : Nat) : Nat :=
  max a b - min a b + 1

/-- The cells of the rectangle between two corners, row by row. -/
def rectangle (sheet : String) (p q : Coordinate) : List Address :=
  (span p.row q.row).flatMap fun row => (span p.col q.col).map fun col => ⟨sheet, row, col⟩

/-- The range between two corners given as texts. -/
def resolveRange (sheet : String) (first last : List Char) : Except Unresolved Resolved := do
  let last ← secondHalf sheet last
  match coordinate? (String.ofList first), coordinate? (String.ofList last) with
  | some p, some q =>
    let height := extent p.row q.row
    let width := extent p.col q.col
    if height * width ≤ maxRangeCells then return .range (rectangle sheet p q)
    else throw (.tooLarge height width)
  | _, _ => throw .malformed

namespace Workbook

/-- The cells that a text names when it is no defined name. -/
def resolveDirect (wb : Workbook) (current : String) (cs : List Char) :
    Except Unresolved Resolved := do
  let (title, coord) ← splitSheet cs
  let name := match title with
    | some t => String.ofList t
    | none => current
  match wb.sheet? name with
  | none => throw (.noSheet name)
  | some sheet =>
    match splitOnce ':' coord with
    | some (first, last) => resolveRange sheet.name first last
    | none =>
      match coordinate? (String.ofList coord) with
      | some p => return .cell (.ofPosition sheet.name p)
      | none => throw (if title.isNone then .unknown else .malformed)

/-- The cells that a reference names, seen from the sheet `current`.  The target of a defined name is
left to `follow`. -/
def resolveThrough (wb : Workbook) (current : String)
    (follow : String → Except ReferenceError Resolved) (raw : String) :
    Except ReferenceError Resolved :=
  let text := Text.trim raw
  match text.toList with
  | [] => .error ⟨raw, .empty⟩
  | '[' :: _ => .error ⟨raw, .external⟩
  | cs =>
    match wb.names.get? text with
    | some d => follow d.target
    | none =>
      match wb.resolveDirect current cs with
      | .ok r => .ok r
      | .error reason => .error ⟨raw, reason⟩

/-- The cells that a reference names, seen from the sheet `current`, through at most `steps` defined
names. -/
def resolveWithin (wb : Workbook) (current : String) :
    (steps : Nat) → String → Except ReferenceError Resolved
  | 0, raw => wb.resolveThrough current (fun _ => .error ⟨raw, .chainTooDeep⟩) raw
  | steps + 1, raw => wb.resolveThrough current (wb.resolveWithin current steps) raw

/-- The cells that a reference names, seen from the sheet `current`. -/
def resolve (wb : Workbook) (current raw : String) : Except ReferenceError Resolved :=
  wb.resolveWithin current maxNameSteps raw

/-- The one cell that a reference names, seen from the sheet `current`. -/
def resolveCell (wb : Workbook) (current raw : String) : Except ReferenceError Address :=
  match wb.resolve current raw with
  | .ok (.cell a) => .ok a
  | .ok (.range _) => .error ⟨raw, .notSingle⟩
  | .error e => .error e

end Workbook

end ReportCompiler
