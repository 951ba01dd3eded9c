import JspCompletion.Session.Basic

/-!
# Connecting, and changing settings

When a client connects it names the workspace and may send settings.  Once it is
ready the settings are put together from their layers and the descriptors are
loaded.  Settings that arrive later go on top of those in force, and descriptors
are loaded again only where the directories changed.
-/

namespace JspCompletion

/-- What a server offers to its client. -/
structure Capabilities where
  /-- Changes of documents are sent as whole texts. -/
  wholeTextSync : Bool
  /-- Items can be completed further in a second request. -/
  resolvesItems : Bool
  /-- The characters that trigger completion. -/
  triggers : List String
deriving DecidableEq, Repr

/-- The number by which the protocol names a way of sending changes. -/
def Capabilities.syncCode (capabilities : Capabilities) : Nat :=
  if capabilities.wholeTextSync then 1 else 2

namespace Session

/-- What this server offers. -/
def capabilities : Capabilities :=
  { wholeTextSync := true
    resolvesItems := false
    triggers := ["<", ":", "\x7b", "\"", " "] }

/-- A client connects.  The first workspace folder is the root if it is a
directory of files, otherwise the root that the client gives beside them. -/
def connect
    (session : Session)
    (folders : List Uri)
    (root : Option Uri)
    (options : Option Json) : Session :=
  { session with
    root := (folders.head?.bind Uri.filePath?).or (root.bind Uri.filePath?)
    options }

/-- The settings from all layers.  A layer that cannot be read is skipped with a
warning. -/
def loadSettings (session : Session) : Settings × Session :=
  let (settings, failures) :=
    Settings.load session.workspace.files session.userFile session.root
  let session := session.postAll (failures.map fun failure =>
    .warn ("Ignoring configuration: " ++ failure.message))
  match session.options with
  | none => (settings, session)
  | some options =>
      match Settings.Layer.ofJson options with
      | .ok layer => (settings.apply layer, session)
      | .error failure =>
          (settings,
            session.post (.warn ("Ignoring initializationOptions: " ++ failure.message)))

/-- The client is ready: put the settings in force and load the descriptors. -/
def ready (session : Session) : Session :=
  let (settings, session) := session.loadSettings
  let (report, session) := (session.install settings).reload
  session.post (.note (serverName ++ " initialized! " ++
    Message.libraries report.loaded.length ++ " available, " ++
    toString report.failures.length ++ " failed to load"))

/-- The client sends changed settings. -/
def changeSettings (session : Session) (change : Json) : Session :=
  match Settings.Layer.ofChange change with
  | .error failure => session.post (.warn ("Ignoring settings: " ++ failure.message))
  | .ok layer =>
      let settings := session.settings.apply layer
      let changed := settings.tldSources ≠ session.settings.tldSources
      let session := session.install settings
      if changed then session.reload.2 else session

end Session
end JspCompletion
