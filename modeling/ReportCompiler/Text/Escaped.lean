import ReportCompiler.Text.Printing

/-!
# Texts shown with escapes

A text shown to a reader stands in double quotes.  The quote and the backslash are escaped, the
usual controls have their short names, and every character that would not show, or would join its
neighbour, is given by its code point.
-/

namespace ReportCompiler.Text

/-- The digits of `n` to base sixteen, in small letters. -/
def hexDigits (n : Nat) : List Char :=
  Nat.toDigits 16 n

/-- The character by its code point: `\u` and the hexadecimal digits in braces. -/
def escapeCode (c : Char) : List Char :=
  ['\\', 'u', '{'] ++ hexDigits c.toNat ++ ['}']

/-- One character as shown between double quotes. -/
def escapeChar (c : Char) : List Char :=
  if c = Char.ofNat 0 then ['\\', '0']
  else if c = '\t' then ['\\', 't']
  else if c = '\r' then ['\\', 'r']
  else if c = '\n' then ['\\', 'n']
  else if c = '\\' || c = '"' then ['\\', c]
  else if isGraphemeExtending c || !isPrinting c then escapeCode c
  else [c]

/-- The text in double quotes, with escapes. -/
def escaped (s : String) : String :=
  String.ofList ('"' :: s.toList.flatMap escapeChar ++ ['"'])

end ReportCompiler.Text
