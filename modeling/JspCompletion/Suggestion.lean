import JspCompletion.Text.Blank

/-!
# Suggestions

A suggestion is one entry of a completion list, independent of the protocol
that carries it: what to insert, what to show, and which typed text it
replaces.  Labels and insertions that would be empty are absent.
-/

namespace JspCompletion

/-- The category of a suggestion. -/
inductive SuggestionKind
  | keyword
  | var
  | function
  | tag
  | attr
  | space
deriving DecidableEq, Repr

namespace SuggestionKind

/-- The category as a word. -/
def word : SuggestionKind → String
  | keyword => "keyword"
  | var => "variable"
  | function => "function"
  | tag => "tag"
  | attr => "attribute"
  | space => "namespace"

end SuggestionKind

/-- A completion candidate. -/
structure Suggestion where
  /-- Plain text to insert. -/
  text : Option String := none
  /-- A snippet to insert. -/
  snippet : Option String := none
  /-- What the list shows, where it differs from the insertion. -/
  displayText : Option String := none
  /-- A label in front of the entry, usually a type. -/
  leftLabel : Option String := none
  /-- A label behind the entry. -/
  rightLabel : Option String := none
  /-- A longer explanation. -/
  description : Option String := none
  /-- The category. -/
  kind : SuggestionKind
  /-- The text in front of the cursor that the insertion replaces. -/
  replaced : String
deriving DecidableEq, Repr

/-- A text, unless it is empty. -/
def unlessEmpty (text : String) : Option String :=
  if text = "" then none else some text

namespace Suggestion

/-- The text that gets inserted. -/
def insertion (suggestion : Suggestion) : String :=
  (suggestion.text.or suggestion.snippet).getD ""

/-- The label shown in a completion list. -/
def label (suggestion : Suggestion) : String :=
  (suggestion.displayText.or (suggestion.text.map Text.trimmedEnd)).getD
    suggestion.insertion

end Suggestion
end JspCompletion
