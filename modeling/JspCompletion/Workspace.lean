import JspCompletion.Builtin
import JspCompletion.Include.Resolver
import JspCompletion.VariableScanner

/-!
# Workspaces

A workspace is everything that completion reads and changes: the clock, the
files, the registry with its listeners, the kept scans of included files, and
the document that is being edited.  A query that refreshes calls the listeners
first, so that document variables are up to date when it is answered.
-/

namespace JspCompletion

/-- Someone who is called before a refreshing query. -/
inductive Listener
  /-- A scanner of the active document. -/
  | documentScanner (scanner : VariableScanner)
  /-- A hook that leaves a label, registers a static descriptor, and subscribes
  a further hook the first time. -/
  | hook (label : String) (adds : Option Descriptor) (subscribes : Option String)
deriving DecidableEq, Repr

/-- The state that completion works on. -/
structure Workspace where
  /-- The time. -/
  now : Time := 0
  /-- The files. -/
  files : FileTree := {}
  /-- The descriptors. -/
  registry : Registry := {}
  /-- Who is called before a refreshing query, in order of subscription. -/
  listeners : List Listener := []
  /-- What is known about included files. -/
  resolver : Include.Resolver := {}
  /-- The text of the document that is being edited. -/
  document : Option String := none
  /-- The least time between two scans of that document. -/
  scanInterval : Nat := 800
  /-- The labels that hooks have left, in order. -/
  fired : List String := []
deriving DecidableEq, Repr

namespace Workspace

/-- Subscribe a listener behind the others. -/
def subscribe (workspace : Workspace) (listener : Listener) : Workspace :=
  { workspace with listeners := workspace.listeners ++ [listener] }

/-- Call one listener.  What it subscribes is put behind the listeners of the
workspace; the result holds the listener as it is after the call. -/
def call (workspace : Workspace) : Listener → Listener × Workspace
  | .documentScanner scanner =>
      let (scanner, registry) :=
        scanner.onRefresh workspace.now workspace.document workspace.scanInterval
          workspace.registry
      (.documentScanner scanner, { workspace with registry })
  | .hook label adds subscribes =>
      let workspace := { workspace with fired := workspace.fired ++ [label] }
      let workspace :=
        match adds with
        | some element =>
            { workspace with registry := (workspace.registry.add workspace.now element).2 }
        | none => workspace
      match subscribes with
      | some nested => (.hook label adds none, workspace.subscribe (.hook nested none none))
      | none => (.hook label adds none, workspace)

/-- Call the listeners of a list one after the other. -/
def callAll (workspace : Workspace) : List Listener → List Listener × Workspace
  | [] => ([], workspace)
  | listener :: rest =>
      let (listener, workspace) := workspace.call listener
      let (rest, workspace) := workspace.callAll rest
      (listener :: rest, workspace)

/-- Call every listener.  Those subscribed meanwhile are called from the next
time on, after the others. -/
def broadcast (workspace : Workspace) : Workspace :=
  let (called, after) := { workspace with listeners := [] }.callAll workspace.listeners
  { after with listeners := called ++ after.listeners }

/-- The entries that a query selects, after calling the listeners if asked. -/
def query
    (workspace : Workspace)
    (query : Query)
    (refresh : Bool) : List (EntryId × Descriptor) × Workspace :=
  let workspace := if refresh then workspace.broadcast else workspace
  let (found, registry) := workspace.registry.query workspace.now query
  (found, { workspace with registry })

/-- The libraries that a text at a path declares. -/
def declaredLibraries
    (workspace : Workspace)
    (text : List Char)
    (file : Option Path) : List DeclaredLibrary × Workspace :=
  let (declared, resolver, registry) :=
    Include.declaredLibraries workspace.files workspace.now text file workspace.resolver
      workspace.registry
  (declared, { workspace with resolver, registry })

/-- A line about the registry, for people. -/
def summary (workspace : Workspace) : String :=
  "Registry \x7b entries: " ++ toString workspace.registry.size ++ ", listeners: " ++
    toString workspace.listeners.length ++ " \x7d"

end Workspace
end JspCompletion
