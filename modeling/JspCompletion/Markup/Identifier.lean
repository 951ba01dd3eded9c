import JspCompletion.Text.Recognize

/-!
# The identifier in front of the cursor

Completion replaces the identifier that ends at the cursor: letters, digits,
`_` and `:`, from the first letter on.  Behind a dot the identifier names a
property.
-/

namespace JspCompletion
namespace Markup

/-- The character may be part of an identifier. -/
def isIdentifierChar (char : Char) : Bool :=
  char.isAlphanum || char == '_' || char == ':'

/-- The identifier at the end of a text, possibly empty. -/
def trailingIdentifier (text : List Char) : List Char :=
  (text.reverse.takeWhile isIdentifierChar).reverse.dropWhile fun char => !char.isAlpha

/-- A dot that only blank characters and at most one identifier separate from
the end of the text. -/
def trailingDot? : List Char → Option (Unit × List Char)
  | '.' :: rest =>
      match Text.trimStart rest with
      | [] => some ((), [])
      | first :: tail =>
          if first.isAlpha && tail.all isIdentifierChar then some ((), []) else none
  | _ => none

/-- The end of an expression names a property. -/
def endsInProperty (expression : List Char) : Bool :=
  (Text.firstValue? trailingDot? expression).isSome

end Markup
end JspCompletion
