import JspCompletion.Name
import JspCompletion.TypeName

/-!
# Descriptors

A descriptor describes something that can be completed: a tag library with its
functions and tags, an attribute of a tag, or one of the variables, keywords
and scopes of the expression language.  Functions and tags refer to their
library by its uri, attributes to their tag by its name.
-/

namespace JspCompletion

/-- Why a descriptor cannot be built. -/
inductive DescriptorError
  /-- The name is blank. -/
  | emptyName
  /-- The uri of the named library is blank. -/
  | emptyUri (library : String)
deriving DecidableEq, Repr

namespace DescriptorError

/-- The error as shown to the user. -/
def message : DescriptorError → String
  | emptyName => "descriptor name must not be empty"
  | emptyUri library => "taglib `" ++ library ++ "` has no uri"

end DescriptorError

/-- The name written in a text, or an error. -/
def Name.ofText (raw : String) : Except DescriptorError Name :=
  match Name.ofText? raw with
  | some name => .ok name
  | none => .error .emptyName

/-- A variable visible inside expressions. -/
structure ExpressionVariable where
  /-- The name of the variable. -/
  name : Name
  /-- Its qualified type, empty if unknown. -/
  typeName : String
  /-- An explanation, possibly empty. -/
  description : String
deriving DecidableEq, Repr

/-- An operator of the expression language that is written as a word. -/
structure Keyword where
  /-- The keyword. -/
  name : Name
  /-- Its meaning in a few words. -/
  fullName : String
  /-- An explanation, possibly empty. -/
  description : String
deriving DecidableEq, Repr

/-- A scope that attributes of a page can live in. -/
structure Scope where
  /-- The name of the scope. -/
  name : Name
  /-- An explanation, possibly empty. -/
  description : String
deriving DecidableEq, Repr

/-- An attribute of a tag. -/
structure TagAttribute where
  /-- The name of the attribute. -/
  name : Name
  /-- The name of the tag it belongs to. -/
  tagName : String
  /-- An explanation, possibly empty. -/
  description : String
  /-- The qualified type of its values, empty if unknown. -/
  typeName : String
  /-- The attribute has to be written. -/
  required : Bool
  /-- Its value may be an expression. -/
  dynamic : Bool
deriving DecidableEq, Repr

/-- A tag of a library. -/
structure LibraryTag where
  /-- The name of the tag. -/
  name : Name
  /-- The uri of its library. -/
  uri : String
  /-- The class that implements it. -/
  className : String
  /-- An explanation, possibly empty. -/
  description : String
  /-- What its body may hold. -/
  content : String
  /-- Its attributes, in order. -/
  attributes : List TagAttribute
deriving DecidableEq, Repr

/-- A function of a library. -/
structure LibraryFunction where
  /-- The name of the function. -/
  name : Name
  /-- The uri of its library. -/
  uri : String
  /-- The class that implements it. -/
  className : String
  /-- Its signature as written. -/
  signature : String
  /-- An example call, possibly empty. -/
  usage : String
  /-- An explanation, possibly empty. -/
  description : String
  /-- Its qualified return type, empty if unknown. -/
  returnType : String
  /-- The qualified types of its arguments. -/
  argumentTypes : List String
deriving DecidableEq, Repr

/-- A tag library; its name is the short name it suggests for itself. -/
structure TagLibrary where
  /-- The short name. -/
  name : Name
  /-- The uri that identifies the library. -/
  uri : String
  /-- The name shown to people, possibly empty. -/
  fullName : String
  /-- An explanation, possibly empty. -/
  description : String
  /-- Its functions, in order. -/
  functions : List LibraryFunction
  /-- Its tags, in order. -/
  tags : List LibraryTag
deriving DecidableEq, Repr

namespace ExpressionVariable

/-- A variable with the given name, type and description. -/
def make
    (name : String)
    (typeName description : String) : Except DescriptorError ExpressionVariable := do
  let name ← Name.ofText name
  return { name, typeName := Text.trimmed typeName, description := Text.trimmed description }

/-- The short form of the variable's type. -/
def shortType (var : ExpressionVariable) : String :=
  TypeName.short var.typeName

end ExpressionVariable

namespace Keyword

/-- A keyword with the given meaning and description. -/
def make (name fullName description : String) : Except DescriptorError Keyword := do
  let name ← Name.ofText name
  return { name, fullName := Text.trimmed fullName, description := Text.trimmed description }

end Keyword

namespace Scope

/-- A scope with the given description. -/
def make (name description : String) : Except DescriptorError Scope := do
  let name ← Name.ofText name
  return { name, description := Text.trimmed description }

end Scope

namespace TagAttribute

/-- An attribute that belongs to no tag yet. -/
def make
    (name typeName description : String)
    (required dynamic : Bool) : Except DescriptorError TagAttribute := do
  let name ← Name.ofText name
  pure
    { name
      tagName := ""
      description := Text.trimmed description
      typeName := Text.trimmed typeName
      required
      dynamic }

/-- The short form of the attribute's type. -/
def shortType (attr : TagAttribute) : String :=
  TypeName.short attr.typeName

end TagAttribute

namespace LibraryTag

/-- A tag without attributes that belongs to no library yet. -/
def make
    (name className description content : String) : Except DescriptorError LibraryTag := do
  let name ← Name.ofText name
  pure
    { name
      uri := ""
      className := Text.trimmed className
      description := Text.trimmed description
      content := Text.trimmed content
      attributes := [] }

/-- Attach an attribute behind the others. -/
def addAttribute (tag : LibraryTag) (attr : TagAttribute) : LibraryTag :=
  { tag with attributes := tag.attributes ++ [{ attr with tagName := tag.name.text }] }

/-- The tag never has a body. -/
def isSelfClosing (tag : LibraryTag) : Bool :=
  tag.content == "empty"

end LibraryTag

namespace LibraryFunction

/-- A function that belongs to no library yet. -/
def make
    (name className signature usage description returnType : String)
    (argumentTypes : List String) : Except DescriptorError LibraryFunction := do
  let name ← Name.ofText name
  pure
    { name
      uri := ""
      className := Text.trimmed className
      signature := Text.trimmed signature
      usage := Text.trimmed usage
      description := Text.trimmed description
      returnType := Text.trimmed returnType
      argumentTypes }

/-- The short form of the function's return type. -/
def shortReturnType (function : LibraryFunction) : String :=
  TypeName.short function.returnType

end LibraryFunction

namespace TagLibrary

/-- A library without functions and tags. -/
def make
    (shortName uri fullName description : String) : Except DescriptorError TagLibrary := do
  let name ← Name.ofText shortName
  if Text.trimmed uri = "" then
    throw (.emptyUri name.text)
  pure
    { name
      uri := Text.trimmed uri
      fullName := Text.trimmed fullName
      description := Text.trimmed description
      functions := []
      tags := [] }

/-- Attach a function behind the others. -/
def addFunction (library : TagLibrary) (function : LibraryFunction) : TagLibrary :=
  { library with functions := library.functions ++ [{ function with uri := library.uri }] }

/-- Attach a tag behind the others. -/
def addTag (library : TagLibrary) (tag : LibraryTag) : TagLibrary :=
  { library with tags := library.tags ++ [{ tag with uri := library.uri }] }

/-- The first tag of a given name. -/
def tag? (library : TagLibrary) (name : String) : Option LibraryTag :=
  library.tags.find? (·.name.text == name)

end TagLibrary

/-- The kinds of descriptors. -/
inductive Kind
  | library
  | function
  | tag
  | attr
  | var
  | keyword
  | scope
deriving DecidableEq, Repr

/-- Anything that can be completed. -/
inductive Descriptor
  | library (library : TagLibrary)
  | function (function : LibraryFunction)
  | tag (tag : LibraryTag)
  | attr (attr : TagAttribute)
  | var (var : ExpressionVariable)
  | keyword (keyword : Keyword)
  | scope (scope : Scope)
deriving DecidableEq, Repr

namespace Descriptor

/-- The kind of a descriptor. -/
def kind : Descriptor → Kind
  | library _ => .library
  | function _ => .function
  | tag _ => .tag
  | attr _ => .attr
  | var _ => .var
  | keyword _ => .keyword
  | scope _ => .scope

/-- The name of a descriptor. -/
def name : Descriptor → Name
  | library item => item.name
  | function item => item.name
  | tag item => item.name
  | attr item => item.name
  | var item => item.name
  | keyword item => item.name
  | scope item => item.name

/-- The properties of one kind beyond the name. -/
def ownProperty : Descriptor → String → Option String
  | library item, "uri" => some item.uri
  | library item, "shortName" => some item.name.text
  | library item, "fullName" => some item.fullName
  | library item, "description" => some item.description
  | function item, "uri" => some item.uri
  | function item, "class" => some item.className
  | function item, "signature" => some item.signature
  | function item, "returnType" => some item.returnType
  | function item, "description" => some item.description
  | tag item, "uri" => some item.uri
  | tag item, "class" => some item.className
  | tag item, "content" => some item.content
  | tag item, "description" => some item.description
  | attr item, "type" => some item.typeName
  | attr item, "description" => some item.description
  | var item, "type" => some item.typeName
  | var item, "description" => some item.description
  | keyword item, "fullName" => some item.fullName
  | keyword item, "description" => some item.description
  | scope item, "description" => some item.description
  | _, _ => none

/-- A property of a descriptor by its name. -/
def property? (descriptor : Descriptor) (property : String) : Option String :=
  if property = "name" then
    some descriptor.name.text
  else if property = "abbreviatedName" then
    some descriptor.name.abbreviation
  else
    descriptor.ownProperty property

end Descriptor
end JspCompletion
