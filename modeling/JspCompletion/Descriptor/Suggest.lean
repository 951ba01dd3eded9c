import JspCompletion.Descriptor.Basic
import JspCompletion.Snippet
import JspCompletion.Suggestion

/-!
# Matching and rendering descriptors

A descriptor is offered when what was typed reaches its name.  Functions and
tags are offered only where the page declares their library, and then under the
namespace that the page binds it to.
-/

namespace JspCompletion

/-- A library that is in scope, with the namespace the page binds it to. -/
structure DeclaredLibrary where
  /-- The namespace. -/
  boundTo : String
  /-- The library. -/
  library : TagLibrary
deriving DecidableEq, Repr

/-- The namespace of the first declared library with a uri. -/
def namespaceFor? (declared : List DeclaredLibrary) (uri : String) : Option String :=
  (declared.find? (·.library.uri == uri)).map (·.boundTo)

/-- How much of a tag is inserted. -/
inductive TagCompletion
  /-- The required attributes and the closing part too. -/
  | full
  /-- The bare name: the tag is already closed. -/
  | nameOnly
  /-- An end tag: the name and the closing bracket. -/
  | closing
deriving DecidableEq, Repr

/-- What a descriptor needs to know to decide whether it is offered, and how. -/
structure MatchContext where
  /-- The text in front of the cursor that is completed. -/
  typed : String
  /-- The libraries in scope. -/
  declared : List DeclaredLibrary
  /-- How tags are inserted. -/
  tagCompletion : TagCompletion := .full
  /-- The namespace of the enclosing tag, for the labels of attributes. -/
  enclosing : Option String := none
deriving DecidableEq, Repr

/-- What was typed, in lower case. -/
def MatchContext.needle (context : MatchContext) : String :=
  Text.lowered context.typed

/-- A namespace as written in front of a name. -/
def qualifier (space : Option String) : String :=
  match space with
  | some space => space ++ ":"
  | none => ""

/-- A name behind its namespace. -/
def qualified (space : Option String) (name : Name) : String :=
  qualifier space ++ name.text

namespace TagAttribute

/-- The value of the attribute, as tab stop `index`.  A static attribute has
an empty stop, a dynamic one of type `String` the placeholder `$\x7bString\x7d`, and
any other dynamic one its short type between expression delimiters. -/
def valueSnippet (attr : TagAttribute) (index : Nat) : String :=
  if !attr.dynamic then
    Snippet.stop index ""
  else if attr.shortType = "String" then
    Snippet.stop index ("$\x7b" ++ attr.shortType ++ "\x7d")
  else
    Snippet.inExpression (Snippet.stop index attr.shortType)

/-- The attribute with its value as tab stop `index`. -/
def snippet (attr : TagAttribute) (index : Nat) : String :=
  attr.name.text ++ "=\"" ++ attr.valueSnippet index ++ "\""

/-- What is known about the attribute, in one line. -/
def summary (attr : TagAttribute) : String :=
  ", ".intercalate
    ((if attr.dynamic then [] else ["static"]) ++
      (if attr.shortType = "" then [] else [attr.shortType]) ++
        (if attr.required then ["required"] else []))

/-- The attribute as a suggestion. -/
def suggestion (attr : TagAttribute) (context : MatchContext) : Suggestion :=
  { kind := .attr
    replaced := context.typed
    snippet := unlessEmpty (attr.snippet 1)
    displayText := unlessEmpty attr.name.text
    description := unlessEmpty attr.description
    leftLabel := unlessEmpty attr.summary
    rightLabel :=
      unlessEmpty ("<" ++ qualifier context.enclosing ++ attr.tagName ++ ">") }

end TagAttribute

namespace LibraryTag

/-- The attributes with a space in front, as tab stops from `index` on. -/
def attributeSnippets : (index : Nat) → List TagAttribute → String
  | _, [] => ""
  | index, attr :: rest =>
      " " ++ attr.snippet index ++ attributeSnippets (index + 1) rest

/-- The attributes that have to be written. -/
def requiredAttributes (tag : LibraryTag) : List TagAttribute :=
  tag.attributes.filter (·.required)

/-- The whole tag: a tab stop for each required attribute, a free one if there
are optional attributes, then the end of the tag. -/
def snippet (tag : LibraryTag) (space : Option String) : String :=
  let required := tag.requiredAttributes
  let free :=
    if required.length < tag.attributes.length then
      Snippet.stop (required.length + 1) ""
    else
      ""
  let ending :=
    if tag.isSelfClosing then
      "/>$0"
    else
      ">$0</" ++ qualified space tag.name ++ ">"
  qualified space tag.name ++ attributeSnippets 1 required ++ free ++ ending

/-- What was typed reaches the tag under its declared namespace. -/
def isReached (tag : LibraryTag) (context : MatchContext) : Bool :=
  match namespaceFor? context.declared tag.uri with
  | some space => tag.name.isReachedUnder space context.needle
  | none => false

/-- The tag as a suggestion. -/
def suggestion (tag : LibraryTag) (context : MatchContext) : Suggestion :=
  let space := namespaceFor? context.declared tag.uri
  let snippet :=
    match context.tagCompletion with
    | .nameOnly => qualified space tag.name
    | .closing => qualified space tag.name ++ ">"
    | .full => tag.snippet space
  { kind := .tag
    replaced := context.typed
    snippet := unlessEmpty snippet
    displayText := unlessEmpty (qualified space tag.name)
    description := unlessEmpty tag.description }

end LibraryTag

namespace LibraryFunction

/-- The tab stops of the arguments, from `index` on. -/
def argumentStops : (index : Nat) → List String → List String
  | _, [] => []
  | index, typeName :: rest =>
      Snippet.stop index (TypeName.short typeName) :: argumentStops (index + 1) rest

/-- A call of the function, with a tab stop for each argument. -/
def snippet (function : LibraryFunction) (space : Option String) : String :=
  qualified space function.name ++ "(" ++
    ", ".intercalate (argumentStops 1 function.argumentTypes) ++ ")"

/-- What was typed reaches the function under its declared namespace. -/
def isReached (function : LibraryFunction) (context : MatchContext) : Bool :=
  match namespaceFor? context.declared function.uri with
  | some space => function.name.isReachedUnder space context.needle
  | none => false

/-- The function as a suggestion. -/
def suggestion (function : LibraryFunction) (context : MatchContext) : Suggestion :=
  let space := namespaceFor? context.declared function.uri
  { kind := .function
    replaced := context.typed
    snippet := unlessEmpty (function.snippet space)
    displayText := unlessEmpty (qualified space function.name)
    leftLabel := unlessEmpty function.shortReturnType
    description := unlessEmpty function.description }

end LibraryFunction

/-- A library as a suggestion. -/
def TagLibrary.suggestion (library : TagLibrary) (context : MatchContext) : Suggestion :=
  { kind := .space
    replaced := context.typed
    snippet := unlessEmpty (library.name.text ++ ":$0")
    description := unlessEmpty library.description }

/-- A variable as a suggestion. -/
def ExpressionVariable.suggestion
    (var : ExpressionVariable)
    (context : MatchContext) : Suggestion :=
  { kind := .var
    replaced := context.typed
    text := unlessEmpty var.name.text
    leftLabel := unlessEmpty var.shortType
    description := unlessEmpty var.description }

/-- A keyword as a suggestion; a space follows it. -/
def Keyword.suggestion (keyword : Keyword) (context : MatchContext) : Suggestion :=
  { kind := .keyword
    replaced := context.typed
    text := unlessEmpty (keyword.name.text ++ " ")
    rightLabel := unlessEmpty keyword.fullName
    description := unlessEmpty keyword.description }

/-- A scope as a suggestion. -/
def Scope.suggestion (scope : Scope) (context : MatchContext) : Suggestion :=
  { kind := .space
    replaced := context.typed
    text := unlessEmpty scope.name.text
    description := unlessEmpty scope.description }

namespace Descriptor

/-- What was typed reaches the descriptor. -/
def isReached (descriptor : Descriptor) (context : MatchContext) : Bool :=
  match descriptor with
  | function item => item.isReached context
  | tag item => item.isReached context
  | other => other.name.isReachedBy context.needle

/-- The descriptor as a suggestion. -/
def suggestion (descriptor : Descriptor) (context : MatchContext) : Suggestion :=
  match descriptor with
  | library item => item.suggestion context
  | function item => item.suggestion context
  | tag item => item.suggestion context
  | attr item => item.suggestion context
  | var item => item.suggestion context
  | keyword item => item.suggestion context
  | scope item => item.suggestion context

/-- The suggestions of the descriptors that are reached, in order. -/
def suggestReached (context : MatchContext) (descriptors : List Descriptor) : List Suggestion :=
  (descriptors.filter (·.isReached context)).map (·.suggestion context)

end Descriptor
end JspCompletion
