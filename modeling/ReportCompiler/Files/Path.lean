/-!
# Paths

A path is a text with slashes between its components.  Empty components and single dots do not
count, except for a dot at the very beginning; where the text of a path is shown, it is shown as it
was given.

* `components` - the names that lead to a file.
* `fileName?` - the last of them.
* `fileStem?`, `extension?` - the name before and after its last dot.
* `parent`, `join`, `withFileName` - the text of neighbouring paths.
-/

namespace ReportCompiler.Files

/-- The parts of a text between slashes. -/
def splitSlash : List Char → List (List Char)
  | [] => [[]]
  | c :: rest =>
    if c = '/' then [] :: splitSlash rest
    else match splitSlash rest with
      | part :: parts => (c :: part) :: parts
      | [] => [[c]]

/-- The components of a path that count. -/
def components (path : String) : List String :=
  ((splitSlash path.toList).filter fun part => part != [] && part != ['.']).map String.ofList

/-- The path begins at the root of all files. -/
def isAbsolute (path : String) : Bool :=
  path.toList.head? = some '/'

/-- The name of the file, which is the last component unless that leads upwards. -/
def fileName? (path : String) : Option String :=
  (components path).getLast?.filter (· != "..")

/-- A name before its last dot and after it; a dot at its beginning does not divide it. -/
def splitName (name : String) : String × Option String :=
  let reversed := name.toList.reverse
  match reversed.dropWhile (· != '.') with
  | '.' :: before =>
    if before.isEmpty then (name, none)
    else (String.ofList before.reverse, some (String.ofList (reversed.takeWhile (· != '.')).reverse))
  | _ => (name, none)

/-- The name of the file before its last dot. -/
def fileStem? (path : String) : Option String :=
  (fileName? path).map fun name => (splitName name).1

/-- The name of the file after its last dot. -/
def extension? (path : String) : Option String :=
  (fileName? path).bind fun name => (splitName name).2

/-- The end of a reversed path without slashes and single dots that do not count. -/
def dropIdle : List Char → List Char
  | '/' :: c :: rest => dropIdle (c :: rest)
  | '.' :: '/' :: rest => dropIdle ('/' :: rest)
  | cs => cs

/-- The text of a path up to its last component. -/
def parent (path : String) : String :=
  String.ofList (dropIdle ((dropIdle path.toList.reverse).dropWhile (· != '/'))).reverse

/-- A name below a path. -/
def join (path name : String) : String :=
  match path.toList.getLast? with
  | none => name
  | some '/' => path ++ name
  | some _ => path ++ "/" ++ name

/-- A path with another name of the file. -/
def withFileName (path name : String) : String :=
  if (fileName? path).isSome then join (parent path) name else join path name

end ReportCompiler.Files
