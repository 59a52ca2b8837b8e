import ReportCompiler.Decimal.Numeral
import ReportCompiler.Toml.Text
import ReportCompiler.Toml.Value

/-!
# Numbers, truth values and dates of TOML documents

All of them are written without quotes, so the word that is written decides what it is.

* `integer?` - integers of 64 bits, in four bases.
* `isDecimal` - numbers with fraction or exponent.
* `isDate` - dates, times and both.
* `scalar?` - the value of a word.
-/

namespace ReportCompiler.Toml

/-- A sign that a number may begin with, as "it is negative", and the text after it. -/
def splitSign : List Char → Bool × List Char
  | '-' :: rest => (true, rest)
  | '+' :: rest => (false, rest)
  | cs => (false, cs)

/-- The digits of a number, of which each two may have one underscore between them. -/
def digits? (isDigit : Char → Bool) : List Char → Option (List Char)
  | [] => none
  | [c] => if isDigit c then some [c] else none
  | c :: '_' :: rest => if isDigit c then (digits? isDigit rest).map (c :: ·) else none
  | c :: rest => if isDigit c then (digits? isDigit rest).map (c :: ·) else none

/-- The decimal digits of a whole number, which begins with a zero only if it is zero. -/
def wholeDigits? (cs : List Char) : Option (List Char) :=
  match digits? Char.isDigit cs with
  | some ['0'] => some ['0']
  | some ('0' :: _) => none
  | ds => ds

/-- The value of digits in a base. -/
def valueIn (base : Nat) (ds : List Char) : Nat :=
  ds.foldl (fun n c => n * base + (Text.hexDigit? c).getD 0) 0

/-- The character is a digit in a base up to sixteen. -/
def isDigitIn (base : Nat) (c : Char) : Bool :=
  match Text.hexDigit? c with
  | some d => d < base
  | none => false

/-- The magnitude of an integer without sign in the base that its beginning names. -/
def baseNumber? : List Char → Option Nat
  | '0' :: 'x' :: rest => (digits? (isDigitIn 16) rest).map (valueIn 16)
  | '0' :: 'o' :: rest => (digits? (isDigitIn 8) rest).map (valueIn 8)
  | '0' :: 'b' :: rest => (digits? (isDigitIn 2) rest).map (valueIn 2)
  | _ => none

/-- An integer of any size. -/
def anyInteger? (word : List Char) : Option Int :=
  match baseNumber? word with
  | some n => some n
  | none =>
    let (negative, cs) := splitSign word
    (wholeDigits? cs).map fun ds =>
      if negative then -(Decimal.ofDigits ds : Int) else Decimal.ofDigits ds

/-- An integer of 64 bits. -/
def integer? (word : List Char) : Option Int :=
  (anyInteger? word).filter fun n => -(Decimal.twoTo 63 : Int) ≤ n && n < Decimal.twoTo 63

/-- An exponent after its letter. -/
def isExponent (cs : List Char) : Bool :=
  (digits? Char.isDigit (splitSign cs).2).isSome

/-- What follows the whole part of a number with fraction or exponent. -/
def isFractionOrExponent (cs : List Char) : Bool :=
  let isPart := fun c => c.isDigit || c = '_'
  match cs with
  | '.' :: rest =>
    (digits? Char.isDigit (rest.takeWhile isPart)).isSome &&
      match rest.dropWhile isPart with
      | [] => true
      | c :: power => (c = 'e' || c = 'E') && isExponent power
  | c :: power => (c = 'e' || c = 'E') && isExponent power
  | [] => false

/-- A number with fraction or exponent that is not too large, or one of the special values. -/
def isDecimal (word : List Char) : Bool :=
  let cs := (splitSign word).2
  let isPart := fun c => c.isDigit || c = '_'
  cs = ['i', 'n', 'f'] || cs = ['n', 'a', 'n'] ||
    ((wholeDigits? (cs.takeWhile isPart)).isSome && isFractionOrExponent (cs.dropWhile isPart) &&
      Decimal.number? (String.ofList (word.filter (· != '_'))) != some (.infinite false))

/-! ### Dates -/

/-- The number of two decimal digits. -/
def twoDigits? (a b : Char) : Option Nat :=
  if a.isDigit && b.isDigit then some (Decimal.ofDigits [a, b]) else none

/-- The year has a leap day. -/
def isLeapYear (year : Nat) : Bool :=
  year % 4 = 0 && (year % 100 ≠ 0 || year % 400 = 0)

/-- The number of days of a month. -/
def daysOf (year month : Nat) : Nat :=
  if month = 2 then (if isLeapYear year then 29 else 28)
  else if [4, 6, 9, 11].contains month then 30
  else 31

/-- A day of a month of a year. -/
def isDay : List Char → Bool
  | [y₁, y₂, y₃, y₄, '-', m₁, m₂, '-', d₁, d₂] =>
    match twoDigits? y₁ y₂, twoDigits? y₃ y₄, twoDigits? m₁ m₂, twoDigits? d₁ d₂ with
    | some century, some year, some month, some day =>
      1 ≤ month && month ≤ 12 && 1 ≤ day && day ≤ daysOf (century * 100 + year) month
    | _, _, _, _ => false
  | _ => false

/-- Hours and minutes. -/
def isClock (h₁ h₂ m₁ m₂ : Char) : Bool :=
  match twoDigits? h₁ h₂, twoDigits? m₁ m₂ with
  | some hour, some minute => hour < 24 && minute < 60
  | _, _ => false

/-- The distance from universal time, or nothing. -/
def isOffset : List Char → Bool
  | [] => true
  | [c] => c = 'Z' || c = 'z'
  | [sign, h₁, h₂, ':', m₁, m₂] => (sign = '+' || sign = '-') && isClock h₁ h₂ m₁ m₂
  | _ => false

/-- A time of day, and the text after it. -/
def readTime : List Char → Option (List Char)
  | h₁ :: h₂ :: ':' :: m₁ :: m₂ :: ':' :: s₁ :: s₂ :: rest =>
    match twoDigits? s₁ s₂ with
    | some second =>
      if isClock h₁ h₂ m₁ m₂ && second ≤ 60 then
        match rest with
        | '.' :: c :: rest' => if c.isDigit then some (rest'.dropWhile Char.isDigit) else none
        | _ => some rest
      else none
    | none => none
  | _ => none

/-- A date, a time of day, or a date with a time and maybe its distance from universal time. -/
def isDate (word : List Char) : Bool :=
  isDay word || readTime word = some [] ||
    (isDay (word.take 10) &&
      match word.drop 10 with
      | c :: time =>
        (c = 'T' || c = 't' || c = ' ') &&
          match readTime time with
          | some offset => isOffset offset
          | none => false
      | [] => false)

/-! ### Words -/

/-- The character may stand in a word. -/
def isWordChar (c : Char) : Bool :=
  c.isAlphanum || c = '_' || c = '-' || c = '+' || c = '.' || c = ':'

/-- The word at the beginning of a text, and the text after it.  A date and its time may have one
blank between them. -/
def splitWord (cs : List Char) : Taken :=
  let word := cs.takeWhile isWordChar
  match cs.dropWhile isWordChar with
  | ' ' :: c :: rest =>
    if isDay word && c.isDigit then
      (word ++ ' ' :: c :: rest.takeWhile isWordChar, rest.dropWhile isWordChar)
    else (word, ' ' :: c :: rest)
  | rest => (word, rest)

/-- The value of a word. -/
def scalar? (word : List Char) : Option Value :=
  if word = "true".toList then some (.boolean true)
  else if word = "false".toList then some (.boolean false)
  else match integer? word with
    | some n => some (.integer n)
    | none =>
      if isDecimal word then some (.decimal (String.ofList word))
      else if isDate word then some (.date (String.ofList word))
      else none

end ReportCompiler.Toml
