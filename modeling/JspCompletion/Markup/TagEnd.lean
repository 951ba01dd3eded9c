import JspCompletion.Markup.Cursor

/-!
# The rest of a tag behind the cursor

What follows the cursor tells whether the tag under it is already closed, and
which attributes are written behind it.
-/

namespace JspCompletion
namespace Markup

/-- The text behind the rest of a name. -/
def afterName (text : List Char) : List Char :=
  text.dropWhile Cursor.isNameChar

/-- The text in front of the first angle bracket outside quotes, and the text
from the bracket on.  The quote of an open value is `quote`. -/
def splitAtBracket : (quote : Option Char) → List Char → List Char × List Char
  | _, [] => ([], [])
  | some quote, char :: rest =>
      let (inner, tail) := splitAtBracket (if char == quote then none else some quote) rest
      (char :: inner, tail)
  | none, char :: rest =>
      if char == '<' || char == '>' then
        ([], char :: rest)
      else
        let quote := if char == '"' || char == '\'' then some char else none
        let (inner, tail) := splitAtBracket quote rest
        (char :: inner, tail)

/-- Splitting a text at a bracket loses nothing. -/
theorem splitAtBracket_append
    {quote : Option Char}
    (text : List Char) :
    (splitAtBracket quote text).1 ++ (splitAtBracket quote text).2 = text := by
  induction text generalizing quote with
  | nil => cases quote <;> rfl
  | cons char rest inductionHypothesis =>
      cases quote with
      | some quote => simp [splitAtBracket, inductionHypothesis]
      | none =>
          simp only [splitAtBracket]
          split
          · rfl
          · simp [inductionHypothesis]

/-- The tag under the cursor is already closed. -/
def isClosedBehind (behindCursor : List Char) : Bool :=
  (splitAtBracket none (afterName behindCursor)).2.head? == some '>'

/-- What is left of the tag under the cursor. -/
def tagTail (behindCursor : List Char) : List Char :=
  (splitAtBracket none (afterName behindCursor)).1

end Markup
end JspCompletion
