/-!
# Digits

Digits in a base up to sixteen, in either case, and the numbers that they
write with the highest digit first.
-/

namespace JspCompletion
namespace Text

/-- The value of a digit in a base up to sixteen. -/
def digit? (base : Nat) (char : Char) : Option Nat :=
  let value? :=
    if '0' ≤ char ∧ char ≤ '9' then
      some (char.toNat - '0'.toNat)
    else if 'a' ≤ char ∧ char ≤ 'f' then
      some (char.toNat - 'a'.toNat + 10)
    else if 'A' ≤ char ∧ char ≤ 'F' then
      some (char.toNat - 'A'.toNat + 10)
    else
      none
  value?.bind fun value => if value < base then some value else none

/-- The number with the given digits, the highest first. -/
def ofDigits (base : Nat) (digits : List Nat) : Nat :=
  digits.foldl (fun value digit => value * base + digit) 0

/-- The number that a text of digits writes.  The empty text writes none. -/
def number? (base : Nat) (text : List Char) : Option Nat :=
  if text.isEmpty then
    none
  else
    (text.mapM (digit? base)).map (ofDigits base)

end Text
end JspCompletion
