import JspCompletion.FileTree
import JspCompletion.Json
import JspCompletion.Toml.Document

/-!
# Settings

The settings of a session are built in layers: defaults, a file of the user, a
file of the workspace, and what the client sends.  Each layer overrides the
settings that it gives.  A layer that cannot be read changes nothing.
-/

namespace JspCompletion

/-- The settings in force. -/
structure Settings where
  /-- The directories that are searched for tag library descriptors. -/
  tldSources : List String := []
  /-- The least number of typed characters that is completed unasked. -/
  minimumWordLength : Nat := 3
  /-- The least time between two scans for variables, in milliseconds. -/
  variableScanInterval : Nat := 800
  /-- How long the scan of an included file is used unchecked, in
  milliseconds. -/
  includeRecheck : Nat := 400
deriving DecidableEq, Repr

namespace Settings

/-- The settings that one layer gives. -/
structure Layer where
  /-- The directories with descriptors. -/
  tldSources : Option (List String) := none
  /-- The least number of typed characters. -/
  minimumWordLength : Option Nat := none
  /-- The time between two scans for variables. -/
  variableScanInterval : Option Nat := none
  /-- How long scans of included files are used. -/
  includeRecheck : Option Nat := none
deriving DecidableEq, Repr

/-- Why a layer cannot be read. -/
inductive LayerError
  /-- The file cannot be read. -/
  | unreadable (path : String)
  /-- The file is malformed, or a setting in it has the wrong type. -/
  | file (path : String)
  /-- A setting that the client sent has the wrong type. -/
  | sent
deriving DecidableEq, Repr

/-- The error as shown to the user. -/
def LayerError.message : LayerError → String
  | unreadable path => "failed to read " ++ path
  | file path => "invalid configuration in " ++ path
  | sent => "invalid configuration settings"

/-- The settings with those of a layer put on top. -/
def apply (settings : Settings) (layer : Layer) : Settings :=
  { tldSources := layer.tldSources.getD settings.tldSources
    minimumWordLength := layer.minimumWordLength.getD settings.minimumWordLength
    variableScanInterval := layer.variableScanInterval.getD settings.variableScanInterval
    includeRecheck := layer.includeRecheck.getD settings.includeRecheck }

namespace Layer

/-- The value of a setting under one of its two names, read by `read?`.  It is
an error if both names are given, or if the value cannot be read. -/
def oneOf
    (field? : String → Option α)
    (read? : α → Option (Option β))
    (name otherName : String) : Option (Option β) :=
  match field? name, field? otherName with
  | some _, some _ => none
  | some value, none | none, some value => read? value
  | none, none => some none

/-- A layer from named values. -/
def ofFields?
    (field? : String → Option α)
    (strings? : α → Option (Option (List String)))
    (natural? : α → Option (Option Nat)) : Option Layer := do
  return {
    tldSources := ← oneOf field? strings? "tld_sources" "tldSources"
    minimumWordLength :=
      ← oneOf field? natural? "minimum_word_length" "minimumWordLength"
    variableScanInterval :=
      ← oneOf field? natural? "variable_scan_interval_ms" "variableScanIntervalMs"
    includeRecheck := ← oneOf field? natural? "include_recheck_ms" "includeRecheckMs" }

/-- The value of an item that has one. -/
def itemValue? : Toml.Item → Option Toml.Value
  | .value value => some value
  | _ => none

/-- A layer from the text of a settings file. -/
def ofToml (path text : String) : Except LayerError Layer :=
  let layer? := do
    let definitions ← Toml.parse text
    ofFields? (fun name => Toml.Definitions.at? definitions [.key name])
      (fun item => (itemValue? item).bind fun value => value.strings?.map some)
      (fun item => (itemValue? item).bind fun value => value.natural?.map some)
  match layer? with
  | some layer => .ok layer
  | none => .error (.file path)

/-- A JSON value that may be null. -/
def unlessNull (read? : Json → Option α) : Json → Option (Option α)
  | .null => some none
  | json => (read? json).map some

/-- A layer from up to four values in order. -/
def ofItems? (items : List Json) : Option Layer := do
  guard (items.length ≤ 4)
  let item (index : Nat) := (items[index]?).getD .null
  return {
    tldSources := ← unlessNull Json.strings? (item 0)
    minimumWordLength := ← unlessNull Json.natural? (item 1)
    variableScanInterval := ← unlessNull Json.natural? (item 2)
    includeRecheck := ← unlessNull Json.natural? (item 3) }

/-- A layer from a JSON value: an object, an array of values in order, or
null. -/
def ofJson? : Json → Option Layer
  | .null => some {}
  | .object fields =>
      ofFields? (Json.object fields).field? (unlessNull Json.strings?)
        (unlessNull Json.natural?)
  | .array items => ofItems? items
  | _ => none

/-- A layer from what the client sent. -/
def ofJson (json : Json) : Except LayerError Layer :=
  match ofJson? json with
  | some layer => .ok layer
  | none => .error .sent

/-- A layer from changed settings: those in our section, or all if there is no
such section. -/
def ofChange (json : Json) : Except LayerError Layer :=
  ofJson ((json.field? "jspantom").getD json)

/-- A layer from a settings file.  A file that is not there is an empty
layer. -/
def ofFile (files : FileTree) (name : PathName) : Except LayerError Layer :=
  match files.readNamed name with
  | .ok text => ofToml name.shown text
  | .error .notFound => .ok {}
  | .error .unreadable => .error (.unreadable name.shown)

end Layer

/-- Put a settings file on top, or note its error. -/
def addFile
    (files : FileTree)
    (state : Settings × List LayerError)
    (name : PathName) : Settings × List LayerError :=
  match Layer.ofFile files name with
  | .ok layer => (state.1.apply layer, state.2)
  | .error failure => (state.1, state.2 ++ [failure])

/-- The name of the settings file of a workspace. -/
def workspaceFileName : String := ".jspantom.toml"

/-- The settings file of the user below the home directory. -/
def userFile (home : String) : PathName :=
  PathName.ofText (home ++ "/.config/jspantom/config.toml")

/-- The defaults, then the user's file, then the file of the workspace. -/
def load
    (files : FileTree)
    (userFile workspaceRoot : Option PathName) : Settings × List LayerError :=
  let workspaceFile := workspaceRoot.map (·.join workspaceFileName)
  (userFile.toList ++ workspaceFile.toList).foldl (addFile files) ({}, [])

end Settings
end JspCompletion
