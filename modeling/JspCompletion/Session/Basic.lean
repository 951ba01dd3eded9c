import JspCompletion.Session.Message
import JspCompletion.Settings
import JspCompletion.Tld.Load
import JspCompletion.Uri.Basic
import JspCompletion.Workspace

/-!
# Sessions

A session serves one editor.  It knows the workspace, the open documents, which
of them is being edited, and the settings in force.  Messages to the editor wait
in an outbox; a session without a client sends none.
-/

namespace JspCompletion

/-- The state of a session. -/
structure Session where
  /-- What completion works on. -/
  workspace : Workspace := {}
  /-- The texts of the open documents. -/
  documents : List (Uri × String) := []
  /-- The document that is being edited. -/
  active : Option Uri := none
  /-- The settings in force. -/
  settings : Settings := {}
  /-- The settings that the client sent when it connected. -/
  options : Option Json := none
  /-- Directories with descriptors that were given when the session began. -/
  extraSources : List String := []
  /-- The settings file of the user. -/
  userFile : Option PathName := none
  /-- The root of the workspace. -/
  root : Option PathName := none
  /-- The home directory. -/
  home : String := ""
  /-- There is someone to send messages to. -/
  hasClient : Bool := true
  /-- The messages that were not collected yet, in order. -/
  outbox : List Message := []
deriving Repr

namespace Session

/-- What the server calls itself. -/
def serverName : String := "JSPantomLSP"

/-- The version of the server. -/
def serverVersion : String := "0.7.0"

/-! ## Messages -/

/-- Send a message, if there is a client. -/
def post (session : Session) (message : Message) : Session :=
  if session.hasClient then
    { session with outbox := session.outbox ++ [message] }
  else
    session

/-- Send messages in order. -/
def postAll (session : Session) (messages : List Message) : Session :=
  messages.foldl post session

/-- The messages sent so far, which are then gone. -/
def collectMessages (session : Session) : List Message × Session :=
  (session.outbox, { session with outbox := [] })

/-! ## Settings -/

/-- Put settings in force, also where copies of them are kept. -/
def install (session : Session) (settings : Settings) : Session :=
  { session with
    settings
    workspace :=
      { session.workspace with
        scanInterval := settings.variableScanInterval
        resolver :=
          { session.workspace.resolver with recheckAfter := settings.includeRecheck } } }

/-- The directories that are searched for descriptors. -/
def sources (session : Session) : List String :=
  session.settings.tldSources ++ session.extraSources

/-! ## The beginning -/

/-- The registry of a new session. -/
def firstRegistry (now : Time) : Registry :=
  match Builtin.register {} now with
  | .ok (_, registry) => registry
  | .error _ => {}

/-- A session over the files of a disk.  The user has a settings file only where there is
a client. -/
def start
    (now : Time)
    (files : FileTree)
    (home : String)
    (extraSources : List String)
    (hasClient : Bool) : Session :=
  let files := { files with access := .walking }
  let workspace : Workspace := { now, files, registry := firstRegistry now }
  let session : Session :=
    { workspace := workspace.subscribe (.documentScanner {})
      extraSources
      userFile := if hasClient then some (Settings.userFile home) else none
      home
      hasClient }
  session.install {}

/-- Let time pass. -/
def wait (session : Session) (span : Nat) : Session :=
  { session with workspace := { session.workspace with now := session.workspace.now + span } }

/-! ## Descriptors -/

/-- The descriptor files below some directories. -/
def descriptorFiles (session : Session) (directories : List String) : List Tld.SourceFile :=
  Tld.collect session.workspace.files session.home directories

/-- Load the descriptors of all sources, and report what failed. -/
def reload (session : Session) : Tld.LoadReport × Session :=
  let files := (session.descriptorFiles session.sources).map fun file =>
    (file.shown, Tld.readFile session.workspace.files file)
  let (report, registry) := Tld.load session.workspace.registry session.workspace.now files
  let session := { session with workspace := { session.workspace with registry } }
  let session := session.postAll (report.failures.map fun failure =>
    .alert (serverName ++ ": " ++ failure.message))
  (report, session.post (.note ("Loaded " ++ Message.libraries report.loaded.length ++
    " from " ++ Message.directories session.sources.length)))

end Session
end JspCompletion
