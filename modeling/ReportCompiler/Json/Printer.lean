import ReportCompiler.Decimal.Text
import ReportCompiler.Json.Value
import ReportCompiler.Text.Escaped

/-!
# Printing JSON documents

* `quoted` - a text between quotes, with the escapes that it needs.
* `pretty` - a value over several lines, with two blanks for each level.
-/

namespace ReportCompiler.Json

/-- A character of a text between quotes. -/
def quotedChar (c : Char) : List Char :=
  if c = '"' || c = '\\' then ['\\', c]
  else if c = '\n' then ['\\', 'n']
  else if c = '\r' then ['\\', 'r']
  else if c = '\t' then ['\\', 't']
  else if c = '\x08' then ['\\', 'b']
  else if c = '\x0c' then ['\\', 'f']
  else if c.toNat < 16 then "\\u000".toList ++ Text.hexDigits c.toNat
  else if c.toNat < 32 then "\\u00".toList ++ Text.hexDigits c.toNat
  else [c]

/-- A text between quotes. -/
def quoted (s : String) : String :=
  String.ofList ('"' :: s.toList.flatMap quotedChar ++ ['"'])

/-- The beginning of a line at a level. -/
def indent (level : Nat) : String :=
  String.ofList (List.replicate (2 * level) ' ')

/-- Parts between brackets: each on a line of its own, or nothing between them if there are none. -/
def enclosed (opener closer : String) (level : Nat) (parts : List String) : String :=
  if parts.isEmpty then opener ++ closer
  else
    opener ++ "\n" ++
      String.intercalate ",\n" (parts.map fun part => indent (level + 1) ++ part) ++ "\n" ++
      indent level ++ closer

mutual

/-- A value over several lines, on the given level. -/
def prettyAt (level : Nat) : Value → String
  | .null => "null"
  | .bool b => if b then "true" else "false"
  | .integer n => Decimal.signText (n < 0) ++ Decimal.digitText n.natAbs
  | .float x => Decimal.documentText x
  | .text s => quoted s
  | .array items => enclosed "[" "]" level (prettyItems (level + 1) items)
  | .object fields => enclosed "\x7b" "\x7d" level (prettyFields (level + 1) fields)

/-- The items of an array, on the given level. -/
def prettyItems (level : Nat) : List Value → List String
  | [] => []
  | v :: rest => prettyAt level v :: prettyItems level rest

/-- The fields of an object, on the given level. -/
def prettyFields (level : Nat) : List (String × Value) → List String
  | [] => []
  | (name, v) :: rest => (quoted name ++ ": " ++ prettyAt level v) :: prettyFields level rest

end

/-- A value over several lines. -/
def pretty (v : Value) : String :=
  prettyAt 0 v

end ReportCompiler.Json
