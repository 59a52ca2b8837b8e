import ReportCompiler.Decimal.Binary64

/-!
# Values of JSON documents

* `Value` - the values.
* `Value.ofFields` - an object made from fields in the order in which they were written; a field
  that is written again keeps its place and takes the later value.
-/

namespace ReportCompiler.Json

/-- A value.  Numbers written without fraction and exponent are integers if they fit into 64 bits.
-/
inductive Value
  /-- No value. -/
  | null
  /-- A truth value. -/
  | bool (b : Bool)
  /-- An integer. -/
  | integer (n : Int)
  /-- Any other number. -/
  | float (x : Decimal.Binary64)
  /-- A text. -/
  | text (s : String)
  /-- An array. -/
  | array (items : List Value)
  /-- An object, by its fields in order. -/
  | object (fields : List (String × Value))
  deriving Repr, Inhabited

/-- The field `name` set to `v`: in its old place, or at the end. -/
def setField (name : String) (v : Value) : List (String × Value) → List (String × Value)
  | [] => [(name, v)]
  | (k, old) :: rest => if k = name then (k, v) :: rest else (k, old) :: setField name v rest

/-- The object of fields that were written one after the other. -/
def Value.ofFields (written : List (String × Value)) : Value :=
  .object (written.foldl (fun fields (name, v) => setField name v fields) [])

/-- The value is an object. -/
def Value.isObject : Value → Bool
  | object _ => true
  | _ => false

end ReportCompiler.Json
