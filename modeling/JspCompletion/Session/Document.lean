import JspCompletion.Completion.Suggest
import JspCompletion.CompletionItem
import JspCompletion.Session.Basic

/-!
# Open documents

The client opens, changes and closes documents, and asks for completions in
them.  The document that was last opened, changed or completed in is the one
being edited, and its variables are offered.
-/

namespace JspCompletion

/-- Why the client asks for completions. -/
inductive Trigger
  /-- The user asked. -/
  | explicit
  /-- A trigger character was typed. -/
  | character
  /-- An incomplete list is to be refined. -/
  | refinement
deriving DecidableEq, Repr

namespace Trigger

/-- The trigger that the protocol names by a number.  Without a number, or with
an unknown one, the user asked. -/
def ofCode : Option Int → Trigger
  | some 2 => character
  | some 3 => refinement
  | _ => explicit

/-- The request was not asked for by the user. -/
def isAutomatic (trigger : Trigger) : Bool :=
  trigger != explicit

end Trigger

namespace Session

/-- The text of an open document. -/
def document? (session : Session) (uri : Uri) : Option String :=
  (session.documents.find? (·.1 == uri)).map (·.2)

/-- Keep the text of a document. -/
def store (session : Session) (uri : Uri) (text : String) : Session :=
  { session with
    documents := session.documents.filter (·.1 != uri) ++ [(uri, text)] }

/-- Make a document the one that is being edited. -/
def activate (session : Session) (uri : Uri) (text : String) : Session :=
  { session with
    active := some uri
    workspace := { session.workspace with document := some text } }

/-- A document is no longer being edited. -/
def deactivate (session : Session) (uri : Uri) : Session :=
  if session.active = some uri then
    { session with
      active := none
      workspace := { session.workspace with document := none } }
  else
    session

/-- A document is opened. -/
def openDocument (session : Session) (uri : Uri) (text : String) : Session :=
  ((session.activate uri text).store uri text).post
    (.note ("Opened file: " ++ uri.render))

/-- A document changes.  Of several texts the last one counts. -/
def changeDocument (session : Session) (uri : Uri) (texts : List String) : Session :=
  match texts.getLast? with
  | some text => (session.activate uri text).store uri text
  | none => session

/-- A document is closed. -/
def closeDocument (session : Session) (uri : Uri) : Session :=
  let session :=
    { session with documents := session.documents.filter (·.1 != uri) }
  (session.deactivate uri).post (.note ("Closed file: " ++ uri.render))

/-- The items at a position of a text. -/
def itemsAt
    (session : Session)
    (uri : Uri)
    (text : String)
    (position : Text.Position)
    (manual : Bool) : List CompletionItem × Session :=
  let content := text.toList
  let request :=
    CompletionRequest.make content (Text.offsetOf content position)
      (uri.filePath?.map PathName.path) manual session.settings.minimumWordLength
  let (suggestions, workspace) := Completion.suggest request session.workspace
  (CompletionItem.ofSuggestions content request.offset suggestions, { session with workspace })

/-- The items at a position of an open document, or nothing if it is not
open. -/
def complete
    (session : Session)
    (uri : Uri)
    (position : Text.Position)
    (trigger : Trigger) : Option (List CompletionItem) × Session :=
  match session.document? uri with
  | none => (none, session)
  | some text =>
      let (items, session) :=
        (session.activate uri text).itemsAt uri text position (!trigger.isAutomatic)
      (some items, session)

end Session
end JspCompletion
