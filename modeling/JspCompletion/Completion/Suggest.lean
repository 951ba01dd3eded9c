import JspCompletion.Completion.Request
import JspCompletion.Markup.Cursor
import JspCompletion.Markup.Identifier
import JspCompletion.Markup.TagEnd
import JspCompletion.Workspace

/-!
# Suggestions at the cursor

Inside an expression the keywords, the variables and the functions of declared
libraries are offered, but nothing in a string literal or behind a dot.  Behind
an angle bracket the tags of declared libraries are offered, inside a tag its
attributes that are not yet written, and inside the values of a few attributes
the variables or the scopes.
-/

namespace JspCompletion

/-- Why there is nothing to complete. -/
inductive ContextError
  /-- The offset is not inside an expression. -/
  | noExpression (offset : Nat)
deriving DecidableEq, Repr

/-- The error as shown to the user. -/
def ContextError.message : ContextError → String
  | noExpression offset => "offset " ++ toString offset ++ " is not inside an expression"

namespace Completion

/-- The kind is offered inside expressions. -/
def isExpressionKind (kind : Kind) : Bool :=
  kind == .function || kind == .var || kind == .keyword

/-- Suggestions inside an expression that starts at an offset. -/
def inExpression
    (request : CompletionRequest)
    (start : Nat)
    (inString : Bool)
    (workspace : Workspace) : List Suggestion × Workspace :=
  let expression := request.since start
  let typed := Markup.trailingIdentifier expression
  if inString || !request.accepts typed || Markup.endsInProperty expression then
    ([], workspace)
  else
    let (declared, workspace) :=
      workspace.declaredLibraries request.beforeCursor request.file
    let context : MatchContext := { typed := String.ofList typed, declared }
    let (found, workspace) := workspace.query {} true
    let offered := (found.map (·.2)).filter fun element => isExpressionKind element.kind
    (Descriptor.suggestReached context offered, workspace)

/-- Suggestions for a tag name that starts at an offset. -/
def ofTags
    (request : CompletionRequest)
    (nameStart : Nat)
    (closing : Bool)
    (workspace : Workspace) : List Suggestion × Workspace :=
  let typed := Markup.trailingIdentifier (request.since nameStart)
  if !request.accepts typed then
    ([], workspace)
  else
    let tagCompletion : TagCompletion :=
      if closing then
        .closing
      else if Markup.isClosedBehind request.afterCursor then
        .nameOnly
      else
        .full
    let (declared, workspace) :=
      workspace.declaredLibraries request.beforeCursor request.file
    let context : MatchContext := { typed := String.ofList typed, declared, tagCompletion }
    let (found, workspace) := workspace.query { kind := some .tag } true
    (Descriptor.suggestReached context (found.map (·.2)), workspace)

/-- The parts of a tag name around its first colon. -/
def splitName? (tagName : List Char) : Option (List Char × List Char) :=
  match tagName.dropWhile (· != ':') with
  | [] => none
  | _ :: localName => some (tagName.takeWhile (· != ':'), localName)

/-- The first tag of a name in the libraries bound to a namespace. -/
def findTag?
    (declared : List DeclaredLibrary)
    (space localName : String) : Option LibraryTag :=
  (declared.filter (·.boundTo == space)).findSome? fun item => item.library.tag? localName

/-- The attributes of a tag that are not yet written, as descriptors. -/
def missingAttributes (tag : LibraryTag) (written : List Markup.Attribute) : List Descriptor :=
  (tag.attributes.filter fun item =>
    !written.any fun attr => attr.name == item.name.text).map Descriptor.attr

/-- Suggestions between the attributes of a tag that starts at an offset. -/
def ofAttributes
    (request : CompletionRequest)
    (tagStart : Nat)
    (tagName : String)
    (workspace : Workspace) : List Suggestion × Workspace :=
  let inTag := request.since tagStart
  let typed := Markup.trailingIdentifier inTag
  let head := inTag.take (inTag.length - typed.length)
  if !head.getLast?.any Text.isMarkupSpace || !request.accepts typed then
    ([], workspace)
  else
    match splitName? tagName.toList with
    | none => ([], workspace)
    | some (space, localName) =>
        let (declared, workspace) :=
          workspace.declaredLibraries request.beforeCursor request.file
        match findTag? declared (String.ofList space) (String.ofList localName) with
        | none => ([], workspace)
        | some tag =>
            let written :=
              Markup.attributes head ++ Markup.attributes (Markup.tagTail request.afterCursor)
            let context : MatchContext :=
              { typed := String.ofList typed, declared, enclosing := some (String.ofList space) }
            (Descriptor.suggestReached context (missingAttributes tag written), workspace)

/-- The kind of what is offered as the value of an attribute. -/
def valueKind? (attributeName : String) : Option Kind :=
  if attributeName = "var" ∨ attributeName = "varStatus" then
    some .var
  else if attributeName = "scope" then
    some .scope
  else
    none

/-- Suggestions inside the value of an attribute that starts at an offset. -/
def ofValues
    (request : CompletionRequest)
    (attributeName : String)
    (valueStart : Nat)
    (workspace : Workspace) : List Suggestion × Workspace :=
  match valueKind? attributeName with
  | none => ([], workspace)
  | some kind =>
      let typed := Markup.trailingIdentifier (request.since valueStart)
      if !request.accepts typed then
        ([], workspace)
      else
        let context : MatchContext := { typed := String.ofList typed, declared := [] }
        let (found, workspace) := workspace.query { kind := some kind } true
        (Descriptor.suggestReached context (found.map (·.2)), workspace)

/-- Suggestions for a request. -/
def suggest
    (request : CompletionRequest)
    (workspace : Workspace) : List Suggestion × Workspace :=
  match Markup.classify request.text request.offset with
  | .expression start inString => inExpression request start inString workspace
  | .tagName nameStart closing => ofTags request nameStart closing workspace
  | .attributeName tagStart tagName => ofAttributes request tagStart tagName workspace
  | .attributeValue _ attributeName valueStart =>
      ofValues request attributeName valueStart workspace
  | .text | .ignored => ([], workspace)

/-- Suggestions for a request that has to be inside an expression. -/
def suggestInExpression
    (request : CompletionRequest)
    (workspace : Workspace) : Except ContextError (List Suggestion × Workspace) :=
  match Markup.classify request.text request.offset with
  | .expression start inString => .ok (inExpression request start inString workspace)
  | _ => .error (.noExpression request.offset)

end Completion
end JspCompletion
