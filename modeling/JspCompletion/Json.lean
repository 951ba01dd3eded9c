/-!
# JSON values

Settings travel as JSON.  Of numbers only the naturals matter: any other
number, a fraction in particular, is no setting.
-/

namespace JspCompletion

/-- A JSON value. -/
inductive Json
  | null
  | bool (value : Bool)
  /-- A number written without sign, fraction and exponent. -/
  | natural (number : Nat)
  /-- Any other number. -/
  | otherNumber
  | string (text : String)
  | array (items : List Json)
  | object (fields : List (String × Json))
deriving Repr, Inhabited

namespace Json

/-- The field of an object. -/
def field? (json : Json) (name : String) : Option Json :=
  match json with
  | object fields => (fields.find? (·.1 == name)).map (·.2)
  | _ => none

/-- The text of a string. -/
def string? : Json → Option String
  | string text => some text
  | _ => none

/-- The texts of an array of strings. -/
def strings? : Json → Option (List String)
  | array items => items.mapM string?
  | _ => none

/-- A natural number of at most 64 bits. -/
def natural? : Json → Option Nat
  | natural number => if number < Nat.pow 2 64 then some number else none
  | _ => none

end Json
end JspCompletion
