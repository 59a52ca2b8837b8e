import ReportCompiler.Decimal.Numeral
import ReportCompiler.Json.Reader
import ReportCompiler.Package.Basic

/-!
# Packages as documents

The content of a package can be written as a JSON document: an object with `sheets`, each with its
`name`, `cells` and `merges`, and `names`, each a pair of texts.  A cell says where it is `at`, its
value `v` and its formula `f`.  A text or a truth value stands for itself; a number, an error value,
a date or a date that is written out is an object with the one field `n`, `e`, `date` or `iso`.

* `Package.parse?` - the package of a text.
-/

namespace ReportCompiler.Package

open Json (Value)

/-- A field of an object. -/
def field? (name : String) : Value → Option Value
  | .object fields => fields.lookup name
  | _ => none

/-- A field that must be a text. -/
def textField? (name : String) (v : Value) : Option String :=
  match field? name v with
  | some (.text s) => some s
  | _ => none

/-- A field that is an array, or missing. -/
def itemsField (name : String) (v : Value) : List Value :=
  match field? name v with
  | some (.array items) => items
  | _ => []

/-- A value that must be a text. -/
def text? : Value → Option String
  | .text s => some s
  | _ => none

/-- A stored value. -/
def storedValue? : Value → Option StoredValue
  | .null => some .none
  | .text s => some (.text s)
  | .bool b => some (.boolean b)
  | .object [("n", .text s)] => (Decimal.number? s).map .number
  | .object [("date", .text s)] => (Decimal.number? s).map .number
  | .object [("e", .text s)] => some (.error s)
  | .object [("iso", .text s)] => some (.written s)
  | _ => none

/-- A stored cell. -/
def storedCell? (v : Value) : Option StoredCell := do
  return {
    position := ← coordinate? (← textField? "at" v)
    value := ← storedValue? ((field? "v" v).getD .null)
    formula := (textField? "f" v).getD "" }

/-- A stored sheet. -/
def storedSheet? (v : Value) : Option StoredSheet := do
  return {
    name := ← textField? "name" v
    cells := ← (itemsField "cells" v).mapM storedCell?
    merges := ← (itemsField "merges" v).mapM text? }

/-- A defined name and its target. -/
def storedName? : Value → Option (String × String)
  | .array [.text name, .text target] => some (name, target)
  | _ => none

/-- The package of a document. -/
def ofValue? (v : Value) : Option Package :=
  if v.isObject then do
    return {
      sheets := ← (itemsField "sheets" v).mapM storedSheet?
      names := ← (itemsField "names" v).mapM storedName? }
  else none

/-- The package of a text. -/
def parse? (s : String) : Option Package :=
  (Json.parse? s).bind ofValue?

end ReportCompiler.Package
