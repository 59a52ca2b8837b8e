/-!
# UTF-8

Bytes as text.  A sequence of bytes is well-formed if each character has the one encoding that the
standard gives it; where it is not, the longest beginning of a character, or else a single byte,
counts as one fault.

* `nextChar` - the first character of some bytes, or the fault in its place, and how many bytes it
  takes.
* `decode?` - the text of bytes that are well-formed.
* `decodeLossy` - the text of any bytes, with a replacement character for each fault.
* `encode` - the bytes of a text.
-/

namespace ReportCompiler.Text

/-- A byte that continues a character. -/
def isContinuation (b : UInt8) : Bool :=
  0x80 ≤ b && b ≤ 0xBF

/-- The second byte may follow the first one. -/
def follows (lead second : UInt8) : Bool :=
  if lead = 0xE0 then 0xA0 ≤ second && second ≤ 0xBF
  else if lead = 0xED then 0x80 ≤ second && second ≤ 0x9F
  else if lead = 0xF0 then 0x90 ≤ second && second ≤ 0xBF
  else if lead = 0xF4 then 0x80 ≤ second && second ≤ 0x8F
  else isContinuation second

/-- The number of bytes of a character that begins with a byte, or zero if none does. -/
def widthOf (lead : UInt8) : Nat :=
  if lead < 0x80 then 1
  else if 0xC2 ≤ lead && lead ≤ 0xDF then 2
  else if 0xE0 ≤ lead && lead ≤ 0xEF then 3
  else if 0xF0 ≤ lead && lead ≤ 0xF4 then 4
  else 0

/-- The number of bytes of a character that are there: its first byte, its second if it may follow,
and continuations up to its width. -/
def presentBytes (lead : UInt8) (rest : List UInt8) : Nat :=
  match rest with
  | second :: rest =>
    if 2 ≤ widthOf lead && follows lead second then
      2 + ((rest.take (widthOf lead - 2)).takeWhile isContinuation).length
    else 1
  | [] => 1

/-- The code point of the bytes of a character. -/
def codePoint (lead : UInt8) (rest : List UInt8) : Nat :=
  let first := match widthOf lead with
    | 2 => lead.toNat % 32
    | 3 => lead.toNat % 16
    | 4 => lead.toNat % 8
    | _ => lead.toNat
  rest.foldl (fun n b => n * 64 + b.toNat % 64) first

/-- The first character of bytes, or nothing in place of a fault, and the number of bytes after the
first that it takes. -/
def nextChar (lead : UInt8) (rest : List UInt8) : Option Char × Nat :=
  let present := presentBytes lead rest
  if present = widthOf lead then
    (some (Char.ofNat (codePoint lead (rest.take (present - 1)))), present - 1)
  else (none, present - 1)

/-- The characters of bytes, with `none` for each fault. -/
def decodeAll (bytes : List UInt8) : List (Option Char) :=
  match bytes with
  | [] => []
  | lead :: rest => (nextChar lead rest).1 :: decodeAll (rest.drop (nextChar lead rest).2)
termination_by bytes.length
decreasing_by simp only [List.length_drop, List.length_cons]; omega

/-- The text of well-formed bytes. -/
def decode? (bytes : List UInt8) : Option String :=
  ((decodeAll bytes).mapM id).map String.ofList

/-- The text of bytes, with a replacement character for each fault. -/
def decodeLossy (bytes : List UInt8) : String :=
  String.ofList ((decodeAll bytes).map fun c => c.getD '�')

/-- The bytes of a text. -/
def encode (s : String) : List UInt8 :=
  s.toUTF8.toList

end ReportCompiler.Text
