/-!
# TOML values

The values of a TOML document, as far as settings need them: the contents of
floats, dates and tables are checked when they are read, but not kept.
-/

namespace JspCompletion
namespace Toml

/-- A value. -/
inductive Value
  /-- A string. -/
  | string (text : String)
  /-- An integer. -/
  | integer (number : Int)
  /-- A floating-point number. -/
  | float
  /-- A truth value. -/
  | boolean (value : Bool)
  /-- A date, a time or both. -/
  | dateTime
  /-- An array. -/
  | array (items : List Value)
  /-- An inline table. -/
  | table
deriving Repr

namespace Value

/-- The text of a string. -/
def string? : Value → Option String
  | string text => some text
  | _ => none

/-- The texts of an array of strings. -/
def strings? : Value → Option (List String)
  | array items => items.mapM string?
  | _ => none

/-- A natural number of at most 64 bits. -/
def natural? : Value → Option Nat
  | integer number =>
      if 0 ≤ number ∧ number.toNat < Nat.pow 2 64 then some number.toNat else none
  | _ => none

end Value
end Toml
end JspCompletion
