import ReportCompiler.Cell.Coordinate
import ReportCompiler.Text.Letter
import ReportCompiler.Text.Lowercase
import Std.Data.TreeMap

/-!
# Defined names

A defined name stands for the text of a reference, which is looked into only when the name is used.
Names are found whatever their case and the blanks around them.

* `NameFault`, `checkName` - what a name must look like.
* `Names` - a set of defined names, with `Names.set`, `Names.get?` and `Names.list`.
-/

namespace ReportCompiler

/-- A name and the reference text that it stands for. -/
structure DefinedName where
  /-- The name as it was given. -/
  name : String
  /-- The reference text, without an equals sign in front. -/
  target : String
  deriving DecidableEq, Repr, Inhabited

/-- A text without one equals sign in front. -/
def dropEquals (s : String) : String :=
  match s.toList with
  | '=' :: rest => String.ofList rest
  | _ => s

/-- A defined name; one equals sign in front of the target is dropped. -/
def DefinedName.of (name target : String) : DefinedName :=
  ⟨name, dropEquals target⟩

/-- Why a text cannot be a defined name. -/
inductive NameFault
  /-- It is blank. -/
  | empty
  /-- It begins with a character that no name begins with. -/
  | badStart (name : String)
  /-- It holds a character that no name holds. -/
  | badCharacter (name : String)
  /-- It could be taken for a cell. -/
  | looksLikeCell (name : String)
  deriving DecidableEq, Repr

/-- The message of a fault. -/
def NameFault.message : NameFault → String
  | empty => "Name cannot be empty"
  | badStart name => "'" ++ name ++ "' must start with a letter or underscore"
  | badCharacter name =>
    "'" ++ name ++ "' can only contain letters, numbers, underscores, and dots"
  | looksLikeCell name => "'" ++ name ++ "' looks like a cell reference"

/-- A name may begin with the character. -/
def isNameStart (c : Char) : Bool :=
  Text.isAlphabetic c || c = '_' || c = '\\'

/-- A name may hold the character. -/
def isNameChar (c : Char) : Bool :=
  Text.isAlphanumeric c || c = '_' || c = '.' || c = '\\'

/-- Checks that a text, apart from blanks around it, can be a defined name. -/
def checkName (s : String) : Except NameFault Unit :=
  let name := Text.trim s
  match name.toList with
  | [] => .error .empty
  | first :: _ =>
    if !isNameStart first then .error (.badStart name)
    else if !name.toList.all isNameChar then .error (.badCharacter name)
    else if (coordinate? name).isSome then .error (.looksLikeCell name)
    else .ok ()

/-- What a name is found by: its text without blanks around it, in lower case. -/
def nameKey (s : String) : String :=
  Text.lowercase (Text.trim s)

/-- A set of defined names. -/
structure Names where
  /-- The names by their keys. -/
  byKey : Std.TreeMap String DefinedName := ∅

namespace Names

/-- A name defined, or defined anew. -/
def set (ns : Names) (d : DefinedName) : Except NameFault Names :=
  match checkName d.name with
  | .error fault => .error fault
  | .ok () => .ok ⟨ns.byKey.insert (nameKey d.name) d⟩

/-- The defined name that a text stands for. -/
def get? (ns : Names) (s : String) : Option DefinedName :=
  ns.byKey[nameKey s]?

/-- The number of defined names. -/
def size (ns : Names) : Nat :=
  ns.byKey.size

/-- All defined names, sorted by the names as they were given. -/
def list (ns : Names) : List DefinedName :=
  ns.byKey.values.mergeSort fun a b => !(b.name < a.name)

end Names

end ReportCompiler
