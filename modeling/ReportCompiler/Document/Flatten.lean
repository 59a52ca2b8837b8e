import ReportCompiler.Json.Reader
import ReportCompiler.Text.Blank

/-!
# Result documents

A program prints one document for each run: an object whose values are nested in sections.  For a
table the sections are flattened, so that each value has one key.

* `DocumentFault`, `parseDocument` - what a program must print.
* `flatten` - the values of a document under keys like `outer::inner`, in the order of the document.
* `unwrapSingle` - an array of one item stands for the item.
-/

namespace ReportCompiler

open Json (Value)

/-- Why a text is no result document. -/
inductive DocumentFault
  /-- It is not JSON. -/
  | notJson
  /-- It is JSON, and not an object. -/
  | notObject
  deriving DecidableEq, Repr

/-- The message of a fault. -/
def DocumentFault.message : DocumentFault → String
  | notJson => "invalid JSON output: the text is not a JSON document"
  | notObject => "result document is not a JSON object"

/-- The document that a program printed. -/
def parseDocument (s : String) : Except DocumentFault Value :=
  match Json.parse? s with
  | none => .error .notJson
  | some v => if v.isObject then .ok v else .error .notObject

/-- The key of a value inside a section. -/
def sectionKey (outer inner : String) : String :=
  Text.trim outer ++ "::" ++ Text.trim inner

mutual

/-- The values of a document under their keys.  What is no object has none. -/
def flatten : Value → List (String × Value)
  | .object fields => flattenFields fields
  | _ => []

/-- The values of fields under their keys: those of a section under the keys of the section, and
every other value, arrays included, under the name of its field. -/
def flattenFields : List (String × Value) → List (String × Value)
  | [] => []
  | (name, v) :: rest =>
    (if v.isObject then (flatten v).map fun (inner, leaf) => (sectionKey name inner, leaf)
      else [(name, v)]) ++ flattenFields rest

end

/-- An array of one item stands for the item. -/
def unwrapSingle : Value → Value
  | .array [item] => item
  | v => v

end ReportCompiler
