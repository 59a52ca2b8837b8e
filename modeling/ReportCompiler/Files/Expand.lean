import ReportCompiler.Text.Letter

/-!
# Expanding paths

In a path that a user gives, variables of the environment and a tilde for the home directory are
replaced.

* `Environment` - the variables.
* `expandVariables?` - a text with its variables replaced, if all of them are set or have a default.
* `expandPath` - a path with its variables and its tilde replaced; if a variable is missing, only
  the tilde is.
-/

namespace ReportCompiler.Files

/-- Variables and their values. -/
abbrev Environment := List (String × String)

/-- A character of the name of a variable. -/
def isVariableChar (c : Char) : Bool :=
  Text.isAlphanumeric c || c = '_'

/-- A text up to the first place of `:-`, and the text after it. -/
def splitDefault : List Char → Option (List Char × List Char)
  | [] => none
  | ':' :: '-' :: rest => some ([], rest)
  | c :: rest => (splitDefault rest).map fun (before, after) => (c :: before, after)

/-- The value of what stands between the braces of a variable: the value of the variable, or the
default that is given behind its name. -/
def bracedValue? (env : Environment) (inner : List Char) : Option String :=
  match splitDefault inner with
  | some (c :: name, default) =>
    some ((env.lookup (String.ofList (c :: name))).getD (String.ofList default))
  | _ => env.lookup (String.ofList inner)

/-- The text with its variables replaced.  What is put in is not looked into again, two dollar signs
are one, and a dollar sign that begins nothing stays.  `fuel` is at least the length of the text. -/
def expandChars? (env : Environment) : (fuel : Nat) → List Char → Option (List Char)
  | _, [] => some []
  | 0, _ => none
  | n + 1, '$' :: '{' :: rest =>
    match rest.dropWhile (· != '}') with
    | _ :: after => do
      let value ← bracedValue? env (rest.takeWhile (· != '}'))
      return value.toList ++ (← expandChars? env n after)
    | [] => (expandChars? env n rest).map (['$', '{'] ++ ·)
  | n + 1, '$' :: '$' :: rest => (expandChars? env n rest).map ('$' :: ·)
  | n + 1, '$' :: rest =>
    let name := rest.takeWhile isVariableChar
    if name.isEmpty then (expandChars? env n rest).map ('$' :: ·)
    else do
      let value ← env.lookup (String.ofList name)
      return value.toList ++ (← expandChars? env n (rest.dropWhile isVariableChar))
  | n + 1, c :: rest => (expandChars? env n rest).map (c :: ·)

/-- A text with its variables replaced, if all of them are set or have a default. -/
def expandVariables? (env : Environment) (path : String) : Option String :=
  (expandChars? env path.length path.toList).map String.ofList

/-- The path begins with a tilde. -/
def beginsWithTilde (path : String) : Bool :=
  path.toList.head? = some '~'

/-- A path with the home directory in place of a tilde that stands alone or in front of a slash. -/
def expandTilde (env : Environment) (path : String) : String :=
  match env.lookup "HOME", path.toList with
  | some home, ['~'] => home
  | some home, '~' :: '/' :: rest => home ++ "/" ++ String.ofList rest
  | _, _ => path

/-- A path with its variables and its tilde replaced.  A tilde that comes from a variable stays, and
if a variable is missing all of them stay. -/
def expandPath (env : Environment) (path : String) : String :=
  match expandVariables? env path with
  | none => expandTilde env path
  | some expanded =>
    if !beginsWithTilde path && beginsWithTilde expanded then expanded
    else expandTilde env expanded

end ReportCompiler.Files
