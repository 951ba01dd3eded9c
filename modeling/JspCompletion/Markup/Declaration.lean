import JspCompletion.Markup.Attribute

/-!
# Declarations of a page

A page declares tag libraries by taglib directives or by XML namespaces, and
takes over the declarations of other files by include directives.  Each
directive has two spellings, `<%@ taglib … %>` and `<jsp:directive.taglib …/>`.
-/

namespace JspCompletion
namespace Markup

/-- A namespace bound to the uri of a library. -/
structure Declaration where
  /-- The namespace. -/
  boundTo : String
  /-- The uri. -/
  uri : String
deriving DecidableEq, Repr

/-- What a file declares and includes, each list in text order. -/
structure FileScan where
  /-- Libraries declared by directives. -/
  directives : List Declaration
  /-- Libraries declared as XML namespaces. -/
  namespaces : List Declaration
  /-- The files named by include directives. -/
  includes : List String
deriving DecidableEq, Repr

namespace Declaration

/-- The rest of a text after the opening words of a directive, in either
spelling. -/
def opening? (word : String) (text : List Char) : Option (List Char) :=
  match Text.after? "<%@".toList text with
  | some tail => Text.afterBlanks? tail >>= Text.after? word.toList
  | none => Text.after? ("<jsp:directive." ++ word).toList text

/-- A `prefix` or `uri` attribute at the start of a text, and the rest.  No
blank character may stand around the equals sign. -/
def part? (text : List Char) : Option (Attribute × List Char) :=
  let value? (name : String) (tail : List Char) := do
    let tail ← Text.after? ['='] tail
    let (value, tail) ← Text.quoted? tail
    some ({ name, value := String.ofList value : Attribute }, tail)
  match Text.after? "prefix".toList text with
  | some tail => value? "prefix" tail
  | none => Text.after? "uri".toList text >>= value? "uri"

/-- The two attributes of a taglib directive at the start of a text, and the
rest. -/
def parts? (text : List Char) : Option ((Attribute × Attribute) × List Char) := do
  let tail ← opening? "taglib" text
  let tail ← Text.afterBlanks? tail
  let (first, tail) ← part? tail
  let tail ← Text.afterBlanks? tail
  let (second, tail) ← part? tail
  some ((first, second), tail)

/-- The declaration made by two attributes, if they are one `prefix` and one
`uri`. -/
def ofParts? (first second : Attribute) : Option Declaration :=
  if first.name = "prefix" ∧ second.name = "uri" then
    some { boundTo := first.value, uri := second.value }
  else if first.name = "uri" ∧ second.name = "prefix" then
    some { boundTo := second.value, uri := first.value }
  else
    none

/-- The character may be part of a declared XML namespace. -/
def isNamespaceChar (char : Char) : Bool :=
  char != '=' && !Text.isBlank char

/-- An XML namespace declaration at the start of a text, and the rest. -/
def namespace? (text : List Char) : Option (Declaration × List Char) := do
  let tail ← Text.after? "xmlns:".toList text
  let name := tail.takeWhile isNamespaceChar
  let tail ← Text.after? ['='] (tail.dropWhile isNamespaceChar)
  let (uri, tail) ← Text.quoted? tail
  if name.isEmpty || uri.isEmpty then
    none
  else
    some ({ boundTo := String.ofList name, uri := String.ofList uri }, tail)

/-- The file of an include directive at the start of a text, and the rest. -/
def include? (text : List Char) : Option (String × List Char) := do
  let tail ← opening? "include" text
  let tail ← Text.afterBlanks? tail
  let tail ← Text.after? "file=".toList tail
  let (file, tail) ← Text.quoted? tail
  some (String.ofList file, tail)

end Declaration

/-- What the text of a file declares and includes. -/
def scan (text : List Char) : FileScan :=
  { directives :=
      (Text.valuesOf Declaration.parts? text).filterMap fun (first, second) =>
        Declaration.ofParts? first second
    namespaces := Text.valuesOf Declaration.namespace? text
    includes := Text.valuesOf Declaration.include? text }

end Markup
end JspCompletion
