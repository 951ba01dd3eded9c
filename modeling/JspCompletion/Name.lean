import JspCompletion.Text.Blank
import JspCompletion.Text.Lower

/-!
# Names and their abbreviations

Everything that can be completed has a name: a trimmed, non-empty text.  What
was typed is compared with the name and with its abbreviation, the first
character followed by the later capitals, all in lower case: `initParam` is
also reached by `ip`.
-/

namespace JspCompletion

/-- The first string starts with the second. -/
def startsWith (text start : String) : Bool :=
  start.toList.isPrefixOf text.toList

/-- The first character and every later ASCII capital, in lower case. -/
def abbreviate (name : String) : String :=
  match name.toList with
  | [] => ""
  | first :: rest => String.ofList (Text.lower (first :: rest.filter Char.isUpper))

/-- A non-empty name starts with the typed text, as written or in lower case. -/
def nameStarts (name typed : String) : Bool :=
  name != "" && (startsWith name typed || startsWith (Text.lowered name) typed)

/-- A trimmed name that is not empty. -/
structure Name where
  /-- The name as written. -/
  text : String
  /-- A name has at least one character. -/
  nonempty : text ≠ ""
deriving DecidableEq, Repr

namespace Name

/-- The name written in a text, unless the text is blank. -/
def ofText? (raw : String) : Option Name :=
  if blank : Text.trimmed raw = "" then
    none
  else
    some { text := Text.trimmed raw, nonempty := blank }

/-- Every name read from a text is the trimmed text. -/
theorem text_of_ofText?
    {raw : String}
    {name : Name}
    (read : ofText? raw = some name) :
    name.text = Text.trimmed raw := by
  unfold ofText? at read
  split at read
  · cases read
  · cases read
    rfl

/-- A text gives no name exactly when trimming leaves nothing. -/
theorem ofText?_eq_none_iff
    {raw : String} :
    ofText? raw = none ↔ Text.trimmed raw = "" := by
  unfold ofText?
  split <;> simp [*]

/-- The abbreviation of a name. -/
def abbreviation (name : Name) : String :=
  abbreviate name.text

/-- The typed text, in lower case, starts the name or its abbreviation. -/
def isReachedBy (name : Name) (typed : String) : Bool :=
  nameStarts name.text typed || nameStarts name.abbreviation typed

/-- The typed text, in lower case, starts the name under a namespace.  Where
the namespace and the typed text overlap, the qualified forms are compared,
and otherwise the bare ones. -/
def isReachedUnder (name : Name) (space typed : String) : Bool :=
  let space := Text.lowered space
  if startsWith space typed || startsWith typed space then
    startsWith (Text.lowered (space ++ ":" ++ name.text)) typed ||
      startsWith (space ++ ":" ++ name.abbreviation) typed
  else
    startsWith (Text.lowered name.text) typed || startsWith name.abbreviation typed

end Name
end JspCompletion
