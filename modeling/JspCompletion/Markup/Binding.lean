import JspCompletion.Markup.Attribute
import JspCompletion.Text.Word

/-!
# Variable bindings

Markup introduces page variables in two ways: by a `var` or `varStatus`
attribute of a tag with a namespace, and by a `jsp:useBean` element, which also
gives the variable a type.
-/

namespace JspCompletion
namespace Markup

/-- Where a variable binding comes from. -/
inductive BindingSource
  /-- An attribute of a tag. -/
  | tagAttribute
  /-- A bean declaration. -/
  | bean
deriving DecidableEq, Repr

/-- A variable that markup introduces. -/
structure Binding where
  /-- The name of the variable. -/
  name : String
  /-- Its type, if the markup gives one. -/
  typeName : Option String
  /-- Where the binding comes from. -/
  source : BindingSource
deriving DecidableEq, Repr

namespace Binding

/-- The part of a text through the first closing bracket, and the rest. -/
def throughBracket? (text : List Char) : Option (List Char × List Char) :=
  match text.dropWhile (· != '>') with
  | [] => none
  | _ :: rest => some (text.takeWhile (· != '>') ++ ['>'], rest)

/-- At least one ASCII letter at the start of a text, and the rest. -/
def letters? (text : List Char) : Option (List Char × List Char) :=
  if (text.takeWhile Char.isAlpha).isEmpty then
    none
  else
    some (text.takeWhile Char.isAlpha, text.dropWhile Char.isAlpha)

/-- A start tag with a namespace and something behind its name, read through
the first closing bracket, and the rest. -/
def customTag? (text : List Char) : Option (List Char × List Char) := do
  let tail ← Text.after? ['<'] text
  let (space, tail) ← letters? tail
  let tail ← Text.after? [':'] tail
  let (name, tail) ← letters? tail
  match tail with
  | [] => none
  | char :: tail =>
      if Text.isBlank char then do
        let (body, rest) ← throughBracket? tail
        some ('<' :: space ++ ':' :: name ++ char :: body, rest)
      else
        none

/-- A bean declaration, read through the first closing bracket, and the
rest. -/
def useBean? (text : List Char) : Option (List Char × List Char) := do
  let opening := "<jsp:useBean".toList
  let tail ← Text.after? opening text
  if (tail.head?.map Text.isWordChar).getD false then
    none
  else do
    let (body, rest) ← throughBracket? tail
    some (opening ++ body, rest)

/-- The bindings that the attributes of a tag make. -/
def ofTag (tag : List Char) : List Binding :=
  (attributes tag).filterMap fun attr =>
    if attr.name = "var" ∨ attr.name = "varStatus" then
      let name := Text.trimmed attr.value
      if name = "" then
        none
      else
        some { name, typeName := none, source := .tagAttribute }
    else
      none

/-- The binding that a bean declaration makes: it needs a class and an id that
is not blank. -/
def ofBean? (element : List Char) : Option Binding := do
  let attributes := attributes element
  let id ← lastValue? attributes "id"
  let className ← lastValue? attributes "class"
  let name := Text.trimmed id
  if name = "" then
    none
  else
    some { name, typeName := some (Text.trimmed className), source := .bean }

end Binding

/-- The variable bindings of a text, ordered by where their elements start. -/
def bindings (text : List Char) : List Binding :=
  let ofTags :=
    (Text.occurrences Binding.customTag? text).flatMap fun (start, tag) =>
      (Binding.ofTag tag).map fun binding => (start, binding)
  let ofBeans :=
    (Text.occurrences Binding.useBean? text).filterMap fun (start, element) =>
      (Binding.ofBean? element).map fun binding => (start, binding)
  ((ofTags ++ ofBeans).mergeSort fun left right => left.1 ≤ right.1).map (·.2)

end Markup
end JspCompletion
