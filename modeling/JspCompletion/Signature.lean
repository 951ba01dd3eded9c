import JspCompletion.Text.Recognize
import JspCompletion.Text.Word

/-!
# Function signatures

A tag library describes a function by a signature such as
`java.lang.String concat(java.lang.String, int)`: a return type, a name and the
argument types between parentheses.  The first place of a text that has this
form is read, and empty arguments are dropped.
-/

namespace JspCompletion

/-- A function's return type, name and argument types. -/
structure Signature where
  /-- The qualified return type. -/
  returnType : String
  /-- The name of the function. -/
  name : String
  /-- The qualified argument types. -/
  argumentTypes : List String
deriving DecidableEq, Repr

namespace Signature

/-- The character may start an identifier. -/
def isIdentifierStart (char : Char) : Bool :=
  char.isAlpha || char == '_' || char == '$'

/-- The character may continue an identifier. -/
def isIdentifierRest (char : Char) : Bool :=
  Text.isWordChar char || char == '$'

/-- An identifier at the start of a text, and the rest. -/
def identifier? : List Char → Option (List Char × List Char)
  | [] => none
  | first :: rest =>
      if isIdentifierStart first then
        some (first :: rest.takeWhile isIdentifierRest, rest.dropWhile isIdentifierRest)
      else
        none

/-- The pairs of brackets at the start of a text, and the rest. -/
def brackets : List Char → List Char × List Char
  | '[' :: ']' :: rest =>
      let (more, tail) := brackets rest
      ('[' :: ']' :: more, tail)
  | text => ([], text)

/-- Identifiers joined by dots at the start of a text, and the rest.  The
identifier read so far is `current`, in reverse. -/
def dottedFrom : (current : List Char) → List Char → Option (List Char × List Char)
  | current, '.' :: first :: rest =>
      if isIdentifierStart first then
        dottedFrom (first :: '.' :: current) rest
      else
        none
  | _, ['.'] => none
  | current, char :: rest =>
      if isIdentifierRest char then
        dottedFrom (char :: current) rest
      else
        some (current.reverse, char :: rest)
  | current, [] => some (current.reverse, [])

/-- A qualified type at the start of a text, and the rest. -/
def qualifiedType? : List Char → Option (List Char × List Char)
  | [] => none
  | first :: rest =>
      if isIdentifierStart first then do
        let (name, tail) ← dottedFrom [first] rest
        let (array, tail) := brackets tail
        some (name ++ array, tail)
      else
        none

/-- The trimmed pieces between commas that are not empty. -/
def arguments (text : List Char) : List String :=
  (((text.splitOn ',').map Text.trim).filter (· != [])).map String.ofList

/-- A signature at the start of a text, and the rest. -/
def recognize? (text : List Char) : Option (Signature × List Char) := do
  let (returnType, tail) ← qualifiedType? text
  let tail ← Text.afterBlanks? tail
  let (name, tail) ← identifier? tail
  let tail ← Text.after? ['('] (Text.trimStart tail)
  match tail.dropWhile (· != ')') with
  | [] => none
  | _ :: rest =>
      some
        ({ returnType := String.ofList returnType
           name := String.ofList name
           argumentTypes := arguments (tail.takeWhile (· != ')')) },
          rest)

/-- The first signature in a text. -/
def ofText? (text : String) : Option Signature :=
  Text.firstValue? recognize? text.toList

end Signature
end JspCompletion
