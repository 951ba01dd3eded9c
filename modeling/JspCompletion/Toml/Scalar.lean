import JspCompletion.Toml.Lexeme

/-!
# Numbers, truth values and dates

A scalar without quotes is one word.  Integers have at most 128 bits, floats
must not overflow, and dates have to exist in the calendar.
-/

namespace JspCompletion
namespace Toml

/-- The digits of a number in a base, with single underscores between them. -/
def digits? (base : Nat) (text : List Char) : Option (List Nat) :=
  match text with
  | [] => none
  | first :: rest => do
      let value ← Text.digit? base first
      match rest with
      | [] => some [value]
      | '_' :: rest => (digits? base rest).map (value :: ·)
      | rest => (digits? base rest).map (value :: ·)

/-- The decimal digits of an integer part: no zero may stand in front. -/
def wholeDigits? (text : List Char) : Option (List Nat) := do
  let digits ← digits? 10 text
  match digits with
  | 0 :: _ :: _ => none
  | digits => some digits

/-- The sign of a number, true if negative, and the rest. -/
def sign : List Char → Bool × List Char
  | '-' :: rest => (true, rest)
  | '+' :: rest => (false, rest)
  | text => (false, text)

/-- An integer that a word writes. -/
def integer? (word : List Char) : Option Value := do
  let number ←
    match word with
    | '0' :: 'x' :: rest => (digits? 16 rest).map fun digits => (Text.ofDigits 16 digits : Int)
    | '0' :: 'o' :: rest => (digits? 8 rest).map fun digits => (Text.ofDigits 8 digits : Int)
    | '0' :: 'b' :: rest => (digits? 2 rest).map fun digits => (Text.ofDigits 2 digits : Int)
    | word =>
        let (negative, rest) := sign word
        (wholeDigits? rest).map fun digits =>
          if negative then -(Text.ofDigits 10 digits : Int) else (Text.ofDigits 10 digits : Int)
  guard ((-number).toNat ≤ Nat.pow 2 127 ∧ number.toNat < Nat.pow 2 128)
  return .integer number

/-- A decimal fraction stays below the largest double-precision number. -/
def isFinite (mantissa : Nat) (exponent : Int) : Bool :=
  let limit := Nat.pow 2 1024 - Nat.pow 2 970
  if mantissa = 0 then
    true
  else if 400 < exponent then
    false
  else if 0 ≤ exponent then
    mantissa * Nat.pow 10 exponent.toNat < limit
  else if exponent < -400 then
    (Nat.toDigits 10 mantissa).length ≤ (-exponent).toNat + 300
  else
    mantissa < limit * Nat.pow 10 (-exponent).toNat

/-- A float that a word writes. -/
def float? (word : List Char) : Option Value := do
  let (_, rest) := sign word
  if rest = "inf".toList ∨ rest = "nan".toList then
    return .float
  let isMark (char : Char) : Bool := char == 'e' || char == 'E'
  let base := rest.takeWhile (!isMark ·)
  let whole := base.takeWhile (· != '.')
  let wholeDigits ← wholeDigits? whole
  let fraction ←
    match base.drop whole.length with
    | [] => some []
    | _ :: fraction => digits? 10 fraction
  let exponent ←
    match rest.drop base.length with
    | [] => if fraction.isEmpty then none else some (0 : Int)
    | _ :: exponent =>
        let (negative, digits) := sign exponent
        (digits? 10 digits).map fun digits =>
          if negative then -(Text.ofDigits 10 digits : Int) else (Text.ofDigits 10 digits : Int)
  guard (isFinite (Text.ofDigits 10 (wholeDigits ++ fraction)) (exponent - fraction.length))
  return .float

/-- Exactly `count` decimal digits, and the rest. -/
def fixed? (count : Nat) (text : List Char) : Option (Nat × List Char) := do
  let digits := text.take count
  guard (digits.length = count)
  some (← Text.number? 10 digits, text.drop count)

/-- A fixed character, and the rest. -/
def mark? (char : Char) : List Char → Option (List Char)
  | first :: rest => if first == char then some rest else none
  | [] => none

/-- The number of days of a month. -/
def daysOf (year month : Nat) : Nat :=
  if month = 2 then
    if year % 4 = 0 ∧ (year % 100 ≠ 0 ∨ year % 400 = 0) then 29 else 28
  else if month = 4 ∨ month = 6 ∨ month = 9 ∨ month = 11 then
    30
  else
    31

/-- The text behind a date. -/
def date? (text : List Char) : Option (List Char) := do
  let (year, tail) ← fixed? 4 text
  let tail ← mark? '-' tail
  let (month, tail) ← fixed? 2 tail
  let tail ← mark? '-' tail
  let (day, tail) ← fixed? 2 tail
  guard (1 ≤ month ∧ month ≤ 12 ∧ 1 ≤ day ∧ day ≤ daysOf year month)
  some tail

/-- The text behind a time; seconds and their fraction may be absent. -/
def time? (text : List Char) : Option (List Char) := do
  let (hour, tail) ← fixed? 2 text
  let tail ← mark? ':' tail
  let (minute, tail) ← fixed? 2 tail
  guard (hour ≤ 23 ∧ minute ≤ 59)
  match tail with
  | ':' :: tail => do
      let (second, tail) ← fixed? 2 tail
      guard (second ≤ 60)
      match tail with
      | '.' :: fraction =>
          if (fraction.takeWhile Char.isDigit).isEmpty then
            none
          else
            some (fraction.dropWhile Char.isDigit)
      | tail => some tail
  | tail => some tail

/-- The word ends, or a time offset stands at its end. -/
def isOffset (text : List Char) : Bool :=
  match text with
  | [] => true
  | ['Z'] | ['z'] => true
  | first :: rest =>
      (first == '+' || first == '-') &&
        (do
          let (hour, tail) ← fixed? 2 rest
          let tail ← mark? ':' tail
          let (minute, tail) ← fixed? 2 tail
          guard (hour ≤ 23 ∧ minute ≤ 59 ∧ tail = [])).isSome

/-- A date, a time or both that a word writes. -/
def dateTime? (word : List Char) : Option Value := do
  match date? word with
  | some [] => return .dateTime
  | some (separator :: rest) =>
      guard (separator == 'T' || separator == 't' || separator == ' ')
      let tail ← time? rest
      guard (isOffset tail)
      return .dateTime
  | none =>
      let tail ← time? word
      guard (tail = [])
      return .dateTime

/-- The character may be part of a scalar without quotes. -/
def isScalarChar (char : Char) : Bool :=
  char.isAlphanum || char == '+' || char == '-' || char == '_' || char == '.' || char == ':'

/-- The word of a scalar, and the rest.  One space may part a date from its
time. -/
def scalarWord (text : List Char) : List Char × List Char :=
  let word := text.takeWhile isScalarChar
  match text.dropWhile isScalarChar with
  | ' ' :: rest =>
      if date? word = some [] ∧ (rest.head?.map Char.isDigit).getD false then
        (word ++ ' ' :: rest.takeWhile isScalarChar, rest.dropWhile isScalarChar)
      else
        (word, ' ' :: rest)
  | rest => (word, rest)

/-- A scalar without quotes, and the rest. -/
def scalar? (text : List Char) : Option (Value × List Char) :=
  let (word, rest) := scalarWord text
  let value? :=
    if word = "true".toList then
      some (Value.boolean true)
    else if word = "false".toList then
      some (Value.boolean false)
    else
      ((integer? word).or (float? word)).or (dateTime? word)
  value?.map fun value => (value, rest)

end Toml
end JspCompletion
