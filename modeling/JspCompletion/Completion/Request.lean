import JspCompletion.Path
import JspCompletion.Text.Size

/-!
# Completion requests

A request names a document and a cursor.  Asked for by typing, it is answered
only if enough was typed; asked for explicitly, it always is.
-/

namespace JspCompletion

/-- A request for completions. -/
structure CompletionRequest where
  /-- The whole text of the document. -/
  text : List Char
  /-- The byte offset of the cursor. -/
  offset : Nat
  /-- Where the document is stored, if it is. -/
  file : Option Path := none
  /-- The user asked for completions explicitly. -/
  manual : Bool := false
  /-- The least number of typed characters otherwise. -/
  minimumLength : Nat := 3
deriving DecidableEq, Repr

namespace CompletionRequest

/-- A request at an offset, moved back to the nearest character boundary. -/
def make
    (text : List Char)
    (offset : Nat)
    (file : Option Path)
    (manual : Bool)
    (minimumLength : Nat) : CompletionRequest :=
  { text, offset := Text.floorBoundary text offset, file, manual, minimumLength }

/-- The text in front of the cursor. -/
def beforeCursor (request : CompletionRequest) : List Char :=
  Text.before request.offset request.text

/-- The text behind the cursor. -/
def afterCursor (request : CompletionRequest) : List Char :=
  Text.after request.offset request.text

/-- The text from a byte offset to the cursor. -/
def since (request : CompletionRequest) (start : Nat) : List Char :=
  Text.slice request.text start request.offset

/-- The typed text is long enough to be completed. -/
def accepts (request : CompletionRequest) (typed : List Char) : Bool :=
  request.manual || (!typed.isEmpty && request.minimumLength ≤ typed.length)

end CompletionRequest
end JspCompletion
