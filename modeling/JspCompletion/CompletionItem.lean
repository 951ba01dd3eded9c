import JspCompletion.Suggestion
import JspCompletion.Text.Position

/-!
# Completion items

The form in which suggestions travel to an editor.  Each item carries an edit
over exactly the text that its suggestion replaces, and a sort key that keeps
the order of the list.
-/

namespace JspCompletion

/-- How the text of an edit is to be read. -/
inductive InsertFormat
  | plain
  | snippet
deriving DecidableEq, Repr

/-- The number by which the protocol names a format. -/
def InsertFormat.code : InsertFormat → Nat
  | plain => 1
  | snippet => 2

/-- The number by which the protocol names a category. -/
def SuggestionKind.code : SuggestionKind → Nat
  | keyword => 14
  | var => 6
  | function => 3
  | tag => 7
  | attr => 5
  | space => 9

/-- The two labels beside an entry. -/
structure LabelDetails where
  /-- The label right behind the entry. -/
  detail : Option String
  /-- The label at the far end. -/
  description : Option String
deriving DecidableEq, Repr

/-- A replacement of a stretch of the document. -/
structure TextEdit where
  /-- The stretch that is replaced. -/
  range : Text.Range
  /-- What takes its place. -/
  newText : String
deriving DecidableEq, Repr

/-- An entry of the completion list as the editor receives it. -/
structure CompletionItem where
  /-- The label of the entry. -/
  label : String
  /-- The labels beside it. -/
  labelDetails : Option LabelDetails
  /-- The category. -/
  kind : SuggestionKind
  /-- A short explanation. -/
  detail : Option String
  /-- A longer explanation. -/
  documentation : Option String
  /-- The key by which the editor sorts. -/
  sortText : String
  /-- The text the editor filters by. -/
  filterText : String
  /-- How the text of the edit is read. -/
  format : InsertFormat
  /-- The edit that accepting the entry makes. -/
  edit : TextEdit
deriving DecidableEq, Repr

namespace CompletionItem

/-- A number with leading zeros up to five digits. -/
def sortKey (index : Nat) : String :=
  let digits := Nat.toDigits 10 index
  String.ofList (List.replicate (5 - digits.length) '0' ++ digits)

/-- What accepting a suggestion inserts. -/
def newText (suggestion : Suggestion) : String × InsertFormat :=
  match suggestion.text, suggestion.snippet with
  | some text, _ => (text, .plain)
  | none, some snippet => (snippet, .snippet)
  | none, none => (suggestion.label, .plain)

/-- The labels beside a suggestion's entry. -/
def labelDetails? (suggestion : Suggestion) : Option LabelDetails :=
  if suggestion.leftLabel.isSome || suggestion.rightLabel.isSome then
    some
      { detail := suggestion.rightLabel.map (" " ++ ·)
        description := suggestion.leftLabel }
  else
    none

/-- The item of a suggestion at a place in the list. -/
def ofSuggestion
    (range : Text.Range)
    (index : Nat)
    (suggestion : Suggestion) : CompletionItem :=
  let (newText, format) := newText suggestion
  { label := suggestion.label
    labelDetails := labelDetails? suggestion
    kind := suggestion.kind
    detail := suggestion.leftLabel
    documentation := suggestion.description
    sortText := sortKey index
    filterText := suggestion.label
    format
    edit := { range, newText } }

/-- The stretch of a document that a suggestion at a byte offset replaces. -/
def replacedRange
    (content : List Char)
    (offset : Nat)
    (suggestion : Suggestion) : Text.Range :=
  { start :=
      Text.positionOf content (offset - Text.size suggestion.replaced.toList)
    stop := Text.positionOf content offset }

/-- The items of a list of suggestions made at a byte offset of a document. -/
def ofSuggestions
    (content : List Char)
    (offset : Nat)
    (suggestions : List Suggestion) : List CompletionItem :=
  suggestions.zipIdx.map fun (suggestion, index) =>
    ofSuggestion (replacedRange content offset suggestion) index suggestion

end CompletionItem
end JspCompletion
