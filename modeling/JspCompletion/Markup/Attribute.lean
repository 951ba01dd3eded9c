import JspCompletion.Text.Recognize

/-!
# Attributes in running text

An attribute is a name, an equals sign and a value in double quotes, with
blank characters allowed around the sign.  Attributes are found in any text,
whether or not it is a tag.
-/

namespace JspCompletion
namespace Markup

/-- An attribute as written. -/
structure Attribute where
  /-- The name. -/
  name : String
  /-- The text between the quotes. -/
  value : String
deriving DecidableEq, Repr

namespace Attribute

/-- The character may start the name of an attribute. -/
def isNameStart (char : Char) : Bool :=
  char.isAlpha || char == '_' || char == ':'

/-- The character may continue the name of an attribute. -/
def isNameRest (char : Char) : Bool :=
  char.isAlphanum || char == '_' || char == ':' || char == '-' || char == '.'

/-- An attribute at the start of a text, and the rest. -/
def recognize? : List Char → Option (Attribute × List Char)
  | [] => none
  | first :: rest =>
      if isNameStart first then do
        let name := first :: rest.takeWhile isNameRest
        let tail ← Text.after? ['='] (Text.trimStart (rest.dropWhile isNameRest))
        let (value, tail) ← Text.quoted? (Text.trimStart tail)
        some ({ name := String.ofList name, value := String.ofList value }, tail)
      else
        none

end Attribute

/-- The attributes in a text, in order. -/
def attributes (text : List Char) : List Attribute :=
  Text.valuesOf Attribute.recognize? text

/-- The value of the last attribute with a name. -/
def lastValue? (attributes : List Attribute) (name : String) : Option String :=
  (attributes.reverse.find? (·.name == name)).map (·.value)

end Markup
end JspCompletion
