import ReportCompiler.Files.Path
import ReportCompiler.Package.Basic
import ReportCompiler.Text.Utf8

/-!
# File trees

A tree holds files and directories, each by the names that lead to it from the working directory.  A
path from the root has the slash as its first name.  Of the directories above the working directory
nothing is known by way of it: there a path leads to a file that is missing.

* `Node` - what a path may lead to.
* `FileFault` - why a file cannot be used.
* `Tree.add` - one more file, with the directories around it.
* `Tree.locate` - what a path leads to.
* `Tree.readBytes`, `Tree.readText`, `Tree.write` - the content of files.
* `Tree.changes` - the files that differ from those of an earlier tree.
-/

namespace ReportCompiler.Files

/-- What a path may lead to. -/
inductive Node
  /-- A directory. -/
  | directory
  /-- A file, by its bytes. -/
  | data (bytes : List UInt8)
  /-- A workbook package, by its content. -/
  | package (p : Package)
  deriving DecidableEq, Repr

/-- Why a file cannot be used. -/
inductive FileFault
  /-- There is none. -/
  | missing
  /-- A file stands where a directory should be. -/
  | notDirectory
  /-- A directory stands where a file should be. -/
  | isDirectory
  /-- Its bytes are no text. -/
  | notText
  deriving DecidableEq, Repr

/-- The message of a fault. -/
def FileFault.message : FileFault → String
  | missing => "No such file or directory (os error 2)"
  | notDirectory => "Not a directory (os error 20)"
  | isDirectory => "Is a directory (os error 21)"
  | notText => "stream did not contain valid UTF-8"

/-- Files and directories. -/
structure Tree where
  /-- Each by the names that lead to it.  Directories come before what is in them. -/
  entries : List (List String × Node) := []
  deriving Repr

namespace Tree

/-- What the names lead to; no names lead to the working directory, and the slash leads to the root.
-/
def find? (t : Tree) (names : List String) : Option Node :=
  if names = [] || names = ["/"] then some .directory else t.entries.lookup names

/-- The node at the names, new or in place of another. -/
def set (t : Tree) (names : List String) (node : Node) : Tree :=
  if (t.find? names).isSome then
    ⟨t.entries.map fun (n, old) => if n = names then (n, node) else (n, old)⟩
  else ⟨t.entries ++ [(names, node)]⟩

/-- The directories that lead to the names. -/
def parents (names : List String) : List (List String) :=
  (List.range names.length).map fun n => names.take n

/-- The names that a path without upward steps consists of. -/
def namesOf (path : String) : List String :=
  if isAbsolute path then "/" :: components path else components path

/-- One more node, with the directories around it. -/
def add (t : Tree) (path : String) (node : Node) : Tree :=
  let names := namesOf path
  let withParents := (parents names).foldl (fun t dir =>
    if (t.find? dir).isSome then t else t.set dir .directory) t
  withParents.set names node

/-- The directory above the names.  The root is above itself, and above the working directory
nothing is known. -/
def above? (names : List String) : Option (List String) :=
  if names.isEmpty then none else if names = ["/"] then some names else some names.dropLast

/-- Follows the parts of a path from a node. -/
def walk (t : Tree) : List String → List String × Node → Except FileFault (List String × Node)
  | [], here => .ok here
  | part :: rest, (names, node) =>
    if node ≠ .directory then .error .notDirectory
    else if part = "" || part = "." then t.walk rest (names, node)
    else if part = ".." then
      match above? names with
      | some up => t.walk rest (up, .directory)
      | none => .error .missing
    else
      match t.find? (names ++ [part]) with
      | some next => t.walk rest (names ++ [part], next)
      | none => .error .missing

/-- The parts of a path between slashes. -/
def partsOf (path : String) : List String :=
  (splitSlash path.toList).map String.ofList

/-- Where following a path starts. -/
def startOf (path : String) : List String × Node :=
  (if isAbsolute path then ["/"] else [], .directory)

/-- The names and the node that a path leads to. -/
def locate (t : Tree) (path : String) : Except FileFault (List String × Node) :=
  if path.isEmpty then .error .missing else t.walk (partsOf path) (startOf path)

/-- The path leads to a directory. -/
def isDirectory (t : Tree) (path : String) : Bool :=
  match t.locate path with
  | .ok (_, .directory) => true
  | _ => false

/-- The path leads to a file. -/
def isFile (t : Tree) (path : String) : Bool :=
  match t.locate path with
  | .ok (_, .directory) => false
  | .ok _ => true
  | .error _ => false

/-- The bytes of a file.  Those of a package are not looked into. -/
def readBytes (t : Tree) (path : String) : Except FileFault (List UInt8) :=
  match t.locate path with
  | .error why => .error why
  | .ok (_, .directory) => .error .isDirectory
  | .ok (_, .data bytes) => .ok bytes
  | .ok (_, .package _) => .error .notText

/-- The text of a file. -/
def readText (t : Tree) (path : String) : Except FileFault String := do
  match Text.decode? (← t.readBytes path) with
  | some s => return s
  | none => throw .notText

/-- Where a file that is written comes to stand, when nothing stands there yet. -/
def freshNames (t : Tree) (path : String) : Except FileFault (List String) :=
  match (partsOf path).reverse.dropWhile (· == "") with
  | [] => .error .missing
  | name :: before =>
    match t.walk before.reverse (startOf path) with
    | .error why => .error why
    | .ok (names, .directory) =>
      if name = "." || name = ".." then .error .missing
      else if path.toList.getLast? = some '/' then .error .isDirectory
      else .ok (names ++ [name])
    | .ok _ => .error .notDirectory

/-- The tree after bytes are written to a file, in place of what it held. -/
def write (t : Tree) (path : String) (bytes : List UInt8) : Except FileFault Tree :=
  match t.locate path with
  | .ok (_, .directory) => .error .isDirectory
  | .ok (names, _) => .ok (t.set names (.data bytes))
  | .error .missing => (t.freshNames path).map fun names => t.set names (.data bytes)
  | .error why => .error why

/-- The names of what is in a directory. -/
def children (t : Tree) (dir : List String) : List (List String) :=
  (t.entries.map Prod.fst).filter fun names => names.dropLast == dir && !names.isEmpty

/-- The names of everything below a directory. -/
def below (t : Tree) (dir : List String) : List (List String) :=
  (t.entries.map Prod.fst).filter fun names => dir.isPrefixOf names && names.length != dir.length

/-- The path of names. -/
def pathOf : List String → String
  | "/" :: names => "/" ++ String.intercalate "/" names
  | names => String.intercalate "/" names

/-- The files that are new or differ from before, with their bytes. -/
def changes (before after : Tree) : List (String × List UInt8) :=
  after.entries.filterMap fun (names, node) =>
    match node with
    | .data bytes => if before.find? names = some node then none else some (pathOf names, bytes)
    | _ => none

end Tree

end ReportCompiler.Files
