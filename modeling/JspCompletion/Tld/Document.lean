import JspCompletion.Xml.Element

/-!
# Tag library descriptor documents

A tag library descriptor is an XML document that lists the functions and tags
of a library.  This module reads the elements that completion needs, under
their current and their older names, and ignores all others.  Single elements
may be absent but not repeated; lists may be mixed with other elements.

A reader that collects a list looks through everything that follows its first
element, so a reference that cannot be decoded is noticed there even inside
an element that is ignored, and text between elements counts as an item.
-/

namespace JspCompletion
namespace Tld

/-- An attribute as a document describes it. -/
structure AttributeEntry where
  /-- The name. -/
  name : Option String
  /-- The descriptions. -/
  descriptions : List String
  /-- The type of its values. -/
  typeName : Option String
  /-- Whether it has to be written. -/
  required : Option String
  /-- Whether its value may be an expression. -/
  dynamic : Option String
deriving DecidableEq, Repr

/-- A tag as a document describes it. -/
structure TagEntry where
  /-- The name. -/
  name : Option String
  /-- The class that implements it. -/
  className : Option String
  /-- What its body may hold. -/
  content : Option String
  /-- The descriptions. -/
  descriptions : List String
  /-- The attributes. -/
  attributes : List AttributeEntry
deriving DecidableEq, Repr

/-- A function as a document describes it. -/
structure FunctionEntry where
  /-- The name. -/
  name : Option String
  /-- The class that implements it. -/
  className : Option String
  /-- The signature. -/
  signature : Option String
  /-- An example call. -/
  usage : Option String
  /-- The descriptions. -/
  descriptions : List String
deriving DecidableEq, Repr

/-- A library as a document describes it. -/
structure Document where
  /-- The name shown to people. -/
  displayName : Option String
  /-- The short name. -/
  shortName : Option String
  /-- The uri. -/
  uri : Option String
  /-- The descriptions. -/
  descriptions : List String
  /-- The functions. -/
  functions : List FunctionEntry
  /-- The tags. -/
  tags : List TagEntry
deriving DecidableEq, Repr

/-- The full name of the first element whose local name is among `lists`, and
what follows it. -/
def firstListed? (lists : List String) : List Xml.Node → Option (List Char × List Xml.Node)
  | [] => none
  | .element name _ _ :: rest =>
      if lists.contains (Xml.Element.localName name) then
        some (name, rest)
      else
        firstListed? lists rest
  | .run _ :: rest => firstListed? lists rest

/-- A node may follow the first element of a list, `first` being its full
name.  Text counts as an item of that list, which is fine among texts only. -/
def mayFollow (textLists : List String) (first : List Char) : Xml.Node → Bool
  | .run _ => textLists.contains (Xml.Element.localName first)
  | .element name attributes content =>
      name == first || (Xml.Node.element name attributes content).decodes

/-- The element can be read as a record with the given lists of texts and of
records: its attributes are proper, every reference that the reader meets can
be decoded, and no text stands where a record is due. -/
def isProper (textLists recordLists : List String) (element : Xml.Element) : Bool :=
  element.hasProperAttributes &&
    element.runs.all (fun pieces => (Xml.Piece.join? pieces).isSome) &&
      match firstListed? (textLists ++ recordLists) element.content with
      | none => true
      | some (first, rest) => rest.all (mayFollow textLists first)

/-- The text of the only child with one of some names, if there is one.  It is
an error if there are several. -/
def single (element : Xml.Element) (names : List String) : Option (Option String) :=
  match element.children.filter fun child =>
      names.contains (Xml.Element.localName child.name) with
  | [] => some none
  | [child] => child.text?.map some
  | _ => none

/-- The children with a local name.  It is an error if their full names
differ. -/
def listed (element : Xml.Element) (name : String) : Option (List Xml.Element) :=
  let found := element.children.filter fun child => Xml.Element.localName child.name == name
  match found with
  | [] => some []
  | first :: rest => if rest.all (·.name == first.name) then some found else none

/-- The texts of the children with a local name. -/
def texts (element : Xml.Element) (name : String) : Option (List String) := do
  (← listed element name).mapM Xml.Element.text?

/-- An attribute element. -/
def AttributeEntry.ofElement? (element : Xml.Element) : Option AttributeEntry := do
  guard (isProper ["description"] [] element)
  return {
    name := ← single element ["name"]
    descriptions := ← texts element "description"
    typeName := ← single element ["type"]
    required := ← single element ["required"]
    dynamic := ← single element ["rtexprvalue"] }

/-- A tag element. -/
def TagEntry.ofElement? (element : Xml.Element) : Option TagEntry := do
  guard (isProper ["description"] ["attribute"] element)
  return {
    name := ← single element ["name"]
    className := ← single element ["tag-class", "tagclass"]
    content := ← single element ["body-content", "bodycontent"]
    descriptions := ← texts element "description"
    attributes := ← (← listed element "attribute").mapM AttributeEntry.ofElement? }

/-- A function element. -/
def FunctionEntry.ofElement? (element : Xml.Element) : Option FunctionEntry := do
  guard (isProper ["description"] [] element)
  return {
    name := ← single element ["name"]
    className := ← single element ["function-class"]
    signature := ← single element ["function-signature"]
    usage := ← single element ["example"]
    descriptions := ← texts element "description" }

namespace Document

/-- The outermost element, whatever its name. -/
def ofElement? (element : Xml.Element) : Option Document := do
  guard (isProper ["description"] ["function", "tag"] element)
  return {
    displayName := ← single element ["display-name"]
    shortName := ← single element ["short-name", "shortname"]
    uri := ← single element ["uri"]
    descriptions := ← texts element "description"
    functions := ← (← listed element "function").mapM FunctionEntry.ofElement?
    tags := ← (← listed element "tag").mapM TagEntry.ofElement? }

/-- The library that a text describes, unless the text is no proper document. -/
def ofText? (text : String) : Option Document := do
  ofElement? (← Xml.Element.ofText? text)

end Document
end Tld
end JspCompletion
