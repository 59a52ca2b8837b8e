import ReportCompiler.Decimal.Text
import ReportCompiler.Document.Flatten

/-!
# Tables of results

A table has one row for each run, under a header that the first document gives.

* `cellText` - a value as the text of a cell.
* `rowText` - the fields of a row, with tabs between them.
* `documentRows` - what a document adds to a table.
-/

namespace ReportCompiler

open Json (Value)

/-- The quote for a text: a double one if that saves escaping the single quotes. -/
def quoteFor (s : List Char) : Char :=
  if s.contains '\'' && !s.contains '"' then '"' else '\''

/-- A character of a quoted text. -/
def literalChar (quote c : Char) : List Char :=
  if c = '\\' || c = quote then ['\\', c]
  else if c = '\n' then ['\\', 'n']
  else if c = '\t' then ['\\', 't']
  else [c]

/-- A text in quotes. -/
def textRepr (s : String) : String :=
  let cs := s.toList
  let quote := quoteFor cs
  String.ofList (quote :: cs.flatMap (literalChar quote) ++ [quote])

/-- An integer in digits. -/
def integerText (n : Int) : String :=
  Decimal.signText (n < 0) ++ Decimal.digitText n.natAbs

mutual

/-- A value as the program that computed it would print it. -/
def valueRepr : Value → String
  | .null => "None"
  | .bool b => if b then "True" else "False"
  | .integer n => integerText n
  | .float x => Decimal.documentText x
  | .text s => textRepr s
  | .array items => "[" ++ String.intercalate ", " (itemReprs items) ++ "]"
  | .object fields => "\x7b" ++ String.intercalate ", " (fieldReprs fields) ++ "\x7d"

/-- The items of an array, each as it would be printed. -/
def itemReprs : List Value → List String
  | [] => []
  | v :: rest => valueRepr v :: itemReprs rest

/-- The fields of an object, each as it would be printed. -/
def fieldReprs : List (String × Value) → List String
  | [] => []
  | (name, v) :: rest => (textRepr name ++ ": " ++ valueRepr v) :: fieldReprs rest

end

/-- A value as the text of a cell: a text as it is, and all else as it would be printed. -/
def cellText : Value → String
  | .text s => s
  | v => valueRepr v

/-- The line of a row.  Its fields are not quoted, except that a single empty one is. -/
def rowText (fields : List String) : String :=
  (if fields = [""] then "\"\"" else String.intercalate "\t" fields) ++ "\n"

/-- The lines that a document adds to a table, with the header if it is the first. -/
def documentRows (isFirst : Bool) (benchmark : String) (document : Value) : String :=
  let pairs := flatten document
  let header := if isFirst then rowText ("Benchmark" :: pairs.map Prod.fst) else ""
  header ++ rowText (benchmark :: pairs.map fun (_, v) => cellText (unwrapSingle v))

end ReportCompiler
