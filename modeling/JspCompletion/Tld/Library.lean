import JspCompletion.Descriptor.Basic
import JspCompletion.Signature
import JspCompletion.Tld.Document

/-!
# Libraries from their descriptors

A library can be completed if it has a short name and a uri, if each function
has a name and a readable signature, and if each tag and attribute has a name.
The first of these that fails is the error.
-/

namespace JspCompletion
namespace Tld

/-- Why a descriptor gives no library.  Each error names the file. -/
inductive Error
  /-- The file cannot be read. -/
  | unreadable (path : String)
  /-- The text is no proper document. -/
  | malformed (path : String)
  /-- An element is missing. -/
  | missing (path field : String)
  /-- A function signature cannot be read. -/
  | signature (path text : String)
  /-- A name or the uri is blank. -/
  | invalid (path : String) (cause : DescriptorError)
deriving DecidableEq, Repr

/-- The error as shown to the user. -/
def Error.message : Error → String
  | unreadable path => "failed to read " ++ path
  | malformed path => path ++ " is not a valid tag library descriptor"
  | missing path field => path ++ " is missing required element <" ++ field ++ ">"
  | signature path text =>
      path ++ ": cannot parse function signature \"" ++ text ++ "\""
  | invalid path cause => path ++ " contains an invalid entry: " ++ cause.message

/-- A value that has to be there. -/
def demand (path field : String) : Option α → Except Error α
  | some value => .ok value
  | none => .error (.missing path field)

/-- A descriptor, or the error in its file. -/
def checked (path : String) : Except DescriptorError α → Except Error α
  | .ok value => .ok value
  | .error cause => .error (.invalid path cause)

/-- The first of several descriptions. -/
def firstOf (texts : List String) : String :=
  texts.head?.getD ""

/-- A flag is set by any text but `false`, and not set if absent. -/
def isSet : Option String → Bool
  | some text => (Text.trimmed text).toList.map Char.toLower != "false".toList
  | none => false

/-- The function that an entry describes. -/
def FunctionEntry.toFunction
    (path : String)
    (entry : FunctionEntry) : Except Error LibraryFunction := do
  let name ← demand path "name" entry.name
  let text ← demand path "function-signature" entry.signature
  match Signature.ofText? text with
  | none => .error (.signature path text)
  | some parsed =>
      checked path
        (LibraryFunction.make name (entry.className.getD "") text (entry.usage.getD "")
          (firstOf entry.descriptions) parsed.returnType parsed.argumentTypes)

/-- The attribute that an entry describes. -/
def AttributeEntry.toAttribute
    (path : String)
    (entry : AttributeEntry) : Except Error TagAttribute := do
  let name ← demand path "name" entry.name
  checked path
    (TagAttribute.make name (entry.typeName.getD "") (firstOf entry.descriptions)
      (isSet entry.required) (isSet entry.dynamic))

/-- The tag that an entry describes. -/
def TagEntry.toTag (path : String) (entry : TagEntry) : Except Error LibraryTag := do
  let name ← demand path "name" entry.name
  let tag ← checked path
    (LibraryTag.make name (entry.className.getD "") (firstOf entry.descriptions)
      (entry.content.getD ""))
  let attributes ← entry.attributes.mapM (AttributeEntry.toAttribute path)
  return attributes.foldl LibraryTag.addAttribute tag

/-- The library that a document describes. -/
def Document.toLibrary (path : String) (document : Document) : Except Error TagLibrary := do
  let shortName ← demand path "short-name" document.shortName
  let uri ← demand path "uri" document.uri
  let library ← checked path
    (TagLibrary.make shortName uri (document.displayName.getD "")
      (firstOf document.descriptions))
  let functions ← document.functions.mapM (FunctionEntry.toFunction path)
  let tags ← document.tags.mapM (TagEntry.toTag path)
  return tags.foldl TagLibrary.addTag (functions.foldl TagLibrary.addFunction library)

/-- The library that the text of a file describes. -/
def parse (path text : String) : Except Error TagLibrary :=
  match Document.ofText? text with
  | none => .error (.malformed path)
  | some document => document.toLibrary path

end Tld
end JspCompletion
