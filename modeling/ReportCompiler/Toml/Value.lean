/-!
# Values of TOML documents

A document is one table.  Its tables come about in different ways, and which of them may still be
added to depends on that, so a table remembers its origin while the document is read.

* `Value` - the values, with `Fields` for the fields of a table.
* `Fields.get?` - the value of a field.
* `assign` - a field set by a key, which may be dotted.
* `within` - a table of the document changed.
* `openTable`, `openArray` - what the two kinds of headers do.

Everything that would define a field twice gives `none`.
-/

namespace ReportCompiler.Toml

/-- How a table came about. -/
inductive Origin
  /-- By a header of its own. -/
  | header
  /-- By a header of a table below it. -/
  | implied
  /-- By a dotted key. -/
  | dotted
  /-- Written between braces, and complete with them. -/
  | braces
  deriving DecidableEq, Repr

/-- A value. -/
inductive Value
  /-- A string. -/
  | text (s : String)
  /-- An integer. -/
  | integer (n : Int)
  /-- A number with fraction or exponent, by its text. -/
  | decimal (s : String)
  /-- A truth value. -/
  | boolean (b : Bool)
  /-- A date, a time or both, by its text. -/
  | date (s : String)
  /-- An array written between square brackets. -/
  | array (items : List Value)
  /-- A table. -/
  | table (origin : Origin) (fields : List (String × Value))
  /-- The tables of an array of headers, each by its fields. -/
  | tables (items : List (List (String × Value)))
  deriving Repr, Inhabited

/-- The fields of a table, in order. -/
abbrev Fields := List (String × Value)

/-- A key, which names a field through the tables around it. -/
structure Key where
  /-- The names of the tables, the outermost first. -/
  parents : List String
  /-- The name of the field. -/
  name : String
  deriving DecidableEq, Repr

/-- The value of a field. -/
def Fields.get? (fs : Fields) (name : String) : Option Value :=
  fs.lookup name

/-- The field `name` changed by `f`, which is given its value if there is one. -/
def Fields.update (f : Option Value → Option Value) (name : String) : Fields → Option Fields
  | [] => (f none).map fun v => [(name, v)]
  | (k, v) :: rest =>
    if k = name then (f (some v)).map fun v' => (k, v') :: rest
    else (Fields.update f name rest).map ((k, v) :: ·)

/-- A new field. -/
def Fields.add (name : String) (v : Value) (fs : Fields) : Option Fields :=
  fs.update (fun | none => some v | some _ => none) name

/-- The last table of an array of tables changed. -/
def onLast (f : Fields → Option Fields) (items : List Fields) : Option Value :=
  match items.reverse with
  | [] => none
  | last :: before => (f last).map fun last' => .tables (before.reverse ++ [last'])

/-- The field `name` set below the tables `parents`.  Only tables that no header has opened take
dotted keys, and only those that dotted keys have made (`holds`) take fields of their own. -/
def assignBelow (holds : Bool) (name : String) (v : Value) : List String → Fields → Option Fields
  | [], fs => if holds then fs.add name v else none
  | parent :: path, fs =>
    fs.update (fun
      | none => (assignBelow true name v path []).map (.table .dotted)
      | some (.table .dotted inner) => (assignBelow true name v path inner).map (.table .dotted)
      | some (.table .implied inner) => (assignBelow false name v path inner).map (.table .implied)
      | some (.tables items) => onLast (assignBelow false name v path) items
      | some _ => none) parent

/-- The field of a key set in a table. -/
def assign (k : Key) (v : Value) (fs : Fields) : Option Fields :=
  assignBelow true k.name v k.parents fs

/-- The table below `path` changed by `f`.  Tables that are missing are made; of an array of tables
the last is meant. -/
def within (f : Fields → Option Fields) : List String → Fields → Option Fields
  | [], fs => f fs
  | parent :: path, fs =>
    fs.update (fun
      | none => (within f path []).map (.table .implied)
      | some (.table .braces _) => none
      | some (.table origin inner) => (within f path inner).map (.table origin)
      | some (.tables items) => onLast (within f path) items
      | some _ => none) parent

/-- The table of a header opened.  It may be there already only because of headers below it. -/
def openTable (k : Key) (fs : Fields) : Option Fields :=
  within (fun fs => fs.update (fun
    | none => some (.table .header [])
    | some (.table .implied inner) => some (.table .header inner)
    | some _ => none) k.name) k.parents fs

/-- One more table of an array of tables opened. -/
def openArray (k : Key) (fs : Fields) : Option Fields :=
  within (fun fs => fs.update (fun
    | none => some (.tables [[]])
    | some (.tables items) => some (.tables (items ++ [[]]))
    | some _ => none) k.name) k.parents fs

end ReportCompiler.Toml
