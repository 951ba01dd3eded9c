import JspCompletion.Xml.Content

/-!
# Elements

The tree of an XML document.  Start and end tags have to match; what follows
the end of the outermost element is not looked at.
-/

namespace JspCompletion
namespace Xml

/-- A part of an element's content. -/
inductive Node
  /-- A run of text, which ends at tags and document types. -/
  | run (pieces : List Piece)
  /-- An element: its name, what follows the name in its start tag, and its
  content. -/
  | element (name attributes : List Char) (content : List Node)
deriving Repr

/-- The node is a run of text that holds only white space. -/
def Node.isBlank : Node → Bool
  | .run pieces => Piece.isBlankRun pieces
  | .element _ _ _ => false

/-- An element. -/
structure Element where
  /-- The name as written. -/
  name : List Char
  /-- What follows the name in the start tag. -/
  attributes : List Char
  /-- The content. -/
  content : List Node
deriving Repr

namespace Element

/-- An element whose end was not yet read, with its content in reverse. -/
structure Frame where
  /-- The name as written. -/
  name : List Char
  /-- What follows the name in the start tag. -/
  attributes : List Char
  /-- The content so far, in reverse. -/
  content : List Node
deriving Repr

namespace Frame

/-- Put a node behind the content. -/
def addNode (frame : Frame) (node : Node) : Frame :=
  { frame with content := node :: frame.content }

/-- End the run of text at hand, so that a new one starts. -/
def endRun (frame : Frame) : Frame :=
  frame.addNode (.run [])

/-- Put a piece of text behind the content. -/
def addPiece (frame : Frame) (piece : Piece) : Frame :=
  match frame.content with
  | .run pieces :: rest => { frame with content := .run (pieces ++ [piece]) :: rest }
  | _ => frame.addNode (.run [piece])

/-- The element that ends here, without its blank runs. -/
def close (frame : Frame) : Element :=
  { name := frame.name
    attributes := frame.attributes
    content := frame.content.reverse.filter (!·.isBlank) }

end Frame

/-- The element as a node. -/
def toNode (element : Element) : Node :=
  .element element.name element.attributes element.content

/-- The outermost element, where `entered` are the elements not yet closed,
innermost first. -/
def build : (entered : List Frame) → List Token → Option Element
  | _, [] => none
  | [], token :: rest =>
      match token with
      | .start name attributes true => some { name, attributes, content := [] }
      | .start name attributes false => build [{ name, attributes, content := [] }] rest
      | .text raw => if raw.all isSpace then build [] rest else none
      | .documentType => build [] rest
      | .stop _ | .data _ | .broken => none
  | frame :: outer, token :: rest =>
      match token with
      | .start name attributes true =>
          build (frame.addNode (.element name attributes []) :: outer) rest
      | .start name attributes false =>
          build ({ name, attributes, content := [] } :: frame :: outer) rest
      | .text raw => build (frame.addPiece (.text raw) :: outer) rest
      | .data content => build (frame.addPiece (.data content) :: outer) rest
      | .documentType => build (frame.endRun :: outer) rest
      | .broken => none
      | .stop name =>
          if name = frame.name then
            match outer with
            | [] => some frame.close
            | parent :: outer => build (parent.addNode frame.close.toNode :: outer) rest
          else
            none

/-- The outermost element of a document, unless the document is broken. -/
def ofText? (document : String) : Option Element :=
  build [] (Token.read document.toList)

/-- The name without its namespace. -/
def localName (name : List Char) : String :=
  match name.dropWhile (· != ':') with
  | [] => String.ofList name
  | _ :: rest => String.ofList rest

/-- The elements directly inside. -/
def children (element : Element) : List Element :=
  element.content.filterMap fun node =>
    match node with
    | .element name attributes content => some { name, attributes, content }
    | .run _ => none

/-- The runs of text directly inside. -/
def runs (element : Element) : List (List Piece) :=
  element.content.filterMap fun node =>
    match node with
    | .run pieces => some pieces
    | .element _ _ _ => none

/-- The text of an element that holds nothing else. -/
def text? (element : Element) : Option String :=
  match element.content with
  | [] => some ""
  | [.run pieces] => Piece.join? pieces
  | _ => none

/-- Attributes follow one another: names, equals signs and quoted values.  The
names read so far are `names`, and `size` bounds the length of the text. -/
def attributesFrom : (size : Nat) → (names : List (List Char)) → List Char → Bool
  | 0, _, text => text.all isSpace
  | size + 1, names, text =>
      match text.dropWhile isSpace with
      | [] => true
      | first :: rest =>
          let isNameEnd (char : Char) : Bool := char == '=' || isSpace char
          let name := first :: rest.takeWhile (!isNameEnd ·)
          match (rest.dropWhile (!isNameEnd ·)).dropWhile isSpace with
          | '=' :: rest =>
              match rest.dropWhile isSpace with
              | quote :: rest =>
                  if (quote == '"' || quote == '\'') && !names.contains name then
                    match rest.dropWhile (· != quote) with
                    | [] => false
                    | _ :: rest => attributesFrom size (name :: names) rest
                  else
                    false
              | [] => false
          | _ => false

/-- The attributes in the start tag are well formed and different. -/
def hasProperAttributes (element : Element) : Bool :=
  attributesFrom element.attributes.length [] element.attributes

end Element

mutual

/-- Every reference inside a node can be decoded. -/
def Node.decodes : Node → Bool
  | .run pieces => (Piece.join? pieces).isSome
  | .element _ _ content => decodesAll content

/-- Every reference inside the nodes of a list can be decoded. -/
def decodesAll : List Node → Bool
  | [] => true
  | node :: rest => node.decodes && decodesAll rest

end

end Xml
end JspCompletion
