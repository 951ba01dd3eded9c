import JspCompletion.Proofs.Completion.Consultation
import JspCompletion.Session.Document
import JspCompletion.Session.Lifecycle

/-!
# Runs of a session

A run starts with a new session and mixes everything that a client may send, in
any order and with any texts and settings.  Between two calls time may pass, the
clock may be set, and the files may change in any way.

A session keeps some facts in several places: the text of the document that is
being edited stands among the open documents and in the workspace, and two
settings have a copy there too.  The main result says that these places agree in
every state of a run, and that settings which cannot be read change nothing.
-/

namespace JspCompletion
namespace Session

/-- Something that happens to a session. -/
inductive Event
  /-- The clock shows another time. -/
  | setClock (now : Time)
  /-- The files are different ones. -/
  | setFiles (files : FileTree)
  /-- The client picks up its messages. -/
  | collectMessages
  | connect (folders : List Uri) (root : Option Uri) (options : Option Json)
  | ready
  | reload
  | openDocument (uri : Uri) (text : String)
  | changeDocument (uri : Uri) (texts : List String)
  | closeDocument (uri : Uri)
  | changeSettings (change : Json)
  | complete (uri : Uri) (position : Text.Position) (trigger : Trigger)

/-- The session after something happened. -/
def after (session : Session) : Event → Session
  | .setClock now => { session with workspace := { session.workspace with now } }
  | .setFiles files => { session with workspace := { session.workspace with files } }
  | .collectMessages => session.collectMessages.2
  | .connect folders root options => session.connect folders root options
  | .ready => session.ready
  | .reload => session.reload.2
  | .openDocument uri text => session.openDocument uri text
  | .changeDocument uri texts => session.changeDocument uri texts
  | .closeDocument uri => session.closeDocument uri
  | .changeSettings change => session.changeSettings change
  | .complete uri position trigger => (session.complete uri position trigger).2

/-- The session after the events of a run. -/
def run (session : Session) (events : List Event) : Session :=
  events.foldl after session

/-! ## What calls do -/

theorem exists_post_eq
    (session : Session)
    (message : Message) :
    ∃ outbox, session.post message = { session with outbox } := by
  unfold post
  split
  · exact ⟨_, rfl⟩
  · exact ⟨session.outbox, rfl⟩

theorem exists_postAll_eq
    (session : Session)
    (messages : List Message) :
    ∃ outbox, session.postAll messages = { session with outbox } := by
  induction messages generalizing session with
  | nil => exact ⟨session.outbox, rfl⟩
  | cons message rest inductionHypothesis =>
      obtain ⟨_, postEq⟩ := session.exists_post_eq message
      obtain ⟨outbox, restEq⟩ := inductionHypothesis (session.post message)
      refine ⟨outbox, restEq.trans ?_⟩
      rw [postEq]

/-- The session with the libraries of some files loaded. -/
def loaded (session : Session) (files : List Tld.ParsedFile) : Session :=
  { session with
    workspace :=
      { session.workspace with
        registry := (Tld.load session.workspace.registry session.workspace.now files).2 } }

/-- The descriptor files of all sources, as they are read. -/
def readFiles (session : Session) : List Tld.ParsedFile :=
  (session.descriptorFiles session.sources).map fun file =>
    (file.shown, Tld.readFile session.workspace.files file)

/-- To load again is to load the files of all sources and to send messages. -/
theorem exists_reload_eq (session : Session) :
    ∃ outbox, session.reload.2 = { session.loaded session.readFiles with outbox } := by
  let report := (Tld.load session.workspace.registry session.workspace.now session.readFiles).1
  let alerts := report.failures.map fun failure =>
    Message.alert (serverName ++ ": " ++ failure.message)
  obtain ⟨_, alertsEq⟩ := exists_postAll_eq (session.loaded session.readFiles) alerts
  change ∃ outbox, ((session.loaded session.readFiles).postAll alerts).post _ = _
  rw [alertsEq]
  exact exists_post_eq ..

theorem exists_loadSettings_eq (session : Session) :
    ∃ outbox, session.loadSettings.2 = { session with outbox } := by
  unfold loadSettings
  obtain ⟨settings, failures⟩ :=
    Settings.load session.workspace.files session.userFile session.root
  obtain ⟨outbox, warningsEq⟩ := session.exists_postAll_eq (failures.map fun failure =>
    .warn ("Ignoring configuration: " ++ failure.message))
  simp only [warningsEq]
  split
  · exact ⟨outbox, rfl⟩
  · split
    · exact ⟨outbox, rfl⟩
    · exact exists_post_eq ..

/-- A client that is ready puts some settings in force and has the libraries of
their sources loaded. -/
theorem exists_ready_eq (session : Session) :
    ∃ settings outbox,
      session.ready =
        { (session.install settings).loaded (session.install settings).readFiles with outbox } := by
  obtain ⟨_, settingsEq⟩ := session.exists_loadSettings_eq
  let settings := session.loadSettings.1
  obtain ⟨_, reloadEq⟩ := (session.loadSettings.2.install settings).exists_reload_eq
  refine ⟨settings, ?_⟩
  simp only [ready]
  change ∃ outbox, (session.loadSettings.2.install settings).reload.2.post _ = _
  rw [reloadEq, settingsEq]
  exact exists_post_eq ..

/-- Changed settings are put in force, and the libraries of their sources are loaded
where the directories changed; settings that cannot be read change nothing. -/
theorem exists_changeSettings_eq
    (session : Session)
    (change : Json) :
    ∃ outbox,
      (∃ failure, Settings.Layer.ofChange change = .error failure) ∧
          session.changeSettings change = { session with outbox } ∨
        ∃ settings, session.changeSettings change = session.install settings ∨
          session.changeSettings change =
            { (session.install settings).loaded (session.install settings).readFiles with
              outbox } := by
  unfold changeSettings
  cases Settings.Layer.ofChange change with
  | error failure =>
      obtain ⟨outbox, postEq⟩ :=
        session.exists_post_eq (.warn ("Ignoring settings: " ++ failure.message))
      exact ⟨outbox, .inl ⟨⟨failure, rfl⟩, postEq⟩⟩
  | ok layer =>
      let settings := session.settings.apply layer
      obtain ⟨outbox, reloadEq⟩ := (session.install settings).exists_reload_eq
      refine ⟨outbox, .inr ⟨settings, ?_⟩⟩
      dsimp only
      split
      · exact .inr reloadEq
      · exact .inl rfl

/-- A completion in an open document makes it the one that is being edited, and
then puts questions to the workspace. -/
theorem exists_complete_eq
    (session : Session)
    {uri : Uri}
    {text : String}
    (isOpen : session.document? uri = some text)
    (position : Text.Position)
    (trigger : Trigger) :
    ∃ consultations,
      (session.complete uri position trigger).2 =
        { session.activate uri text with
          workspace := (session.activate uri text).workspace.consultAll consultations } := by
  simp only [complete, isOpen]
  obtain ⟨consultations, suggestEq⟩ := Completion.exists_consultAll_suggest
    (CompletionRequest.make text.toList (Text.offsetOf text.toList position)
      (uri.filePath?.map PathName.path) (!trigger.isAutomatic) session.settings.minimumWordLength)
    (session.activate uri text).workspace
  refine ⟨consultations, ?_⟩
  rw [← suggestEq]
  rfl

/-! ## Open documents -/

theorem document?_store
    (session : Session)
    (uri other : Uri)
    (text : String) :
    (session.store uri text).document? other =
      if other = uri then some text else session.document? other := by
  simp only [document?, store, Include.find?_filter_ne_append]
  split <;> rfl

/-! ## Facts in several places -/

/-- What is kept in several places agrees. -/
structure Coherent (session : Session) : Prop where
  /-- The document that is being edited is open, with the text that is scanned. -/
  active : ∀ uri, session.active = some uri →
    ∃ text, session.document? uri = some text ∧ session.workspace.document = some text
  /-- Without such a document there is no text to scan. -/
  inactive : session.active = none → session.workspace.document = none
  scanInterval : session.workspace.scanInterval = session.settings.variableScanInterval
  recheckAfter : session.workspace.resolver.recheckAfter = session.settings.includeRecheck

namespace Coherent

variable {session : Session}

theorem withOutbox
    (coherent : session.Coherent)
    (outbox : List Message) :
    { session with outbox }.Coherent :=
  ⟨coherent.active, coherent.inactive, coherent.scanInterval, coherent.recheckAfter⟩

theorem post
    (coherent : session.Coherent)
    (message : Message) :
    (session.post message).Coherent := by
  obtain ⟨outbox, postEq⟩ := session.exists_post_eq message
  rw [postEq]
  exact coherent.withOutbox outbox

theorem loaded
    (coherent : session.Coherent)
    (files : List Tld.ParsedFile) :
    (session.loaded files).Coherent :=
  ⟨coherent.active, coherent.inactive, coherent.scanInterval, coherent.recheckAfter⟩

/-- Settings come into force together with their copies. -/
theorem install
    (coherent : session.Coherent)
    (settings : Settings) :
    (session.install settings).Coherent :=
  ⟨coherent.active, coherent.inactive, rfl, rfl⟩

theorem activate_store
    (coherent : session.Coherent)
    (uri : Uri)
    (text : String) :
    ((session.activate uri text).store uri text).Coherent := by
  refine ⟨?_, nofun, coherent.scanInterval, coherent.recheckAfter⟩
  intro other isActive
  obtain rfl : uri = other := Option.some.inj isActive
  refine ⟨text, ?_, rfl⟩
  rw [document?_store, if_pos rfl]

theorem closeDocument
    (coherent : session.Coherent)
    (uri : Uri) :
    (session.closeDocument uri).Coherent := by
  apply post
  unfold deactivate
  split
  · exact ⟨nofun, fun _ => rfl, coherent.scanInterval, coherent.recheckAfter⟩
  · rename_i notActive
    refine ⟨?_, coherent.inactive, coherent.scanInterval, coherent.recheckAfter⟩
    intro other isActive
    have differs : other ≠ uri := by
      rintro rfl
      exact notActive isActive
    obtain ⟨text, isOpen, scanned⟩ := coherent.active other isActive
    refine ⟨text, ?_, scanned⟩
    simp only [document?]
    rw [Include.find?_filter_ne, if_neg differs]
    exact isOpen

theorem changeSettings
    (coherent : session.Coherent)
    (change : Json) :
    (session.changeSettings change).Coherent := by
  obtain ⟨outbox, ⟨-, changeEq⟩ | ⟨settings, changeEq | changeEq⟩⟩ :=
    session.exists_changeSettings_eq change
  · rw [changeEq]
    exact coherent.withOutbox outbox
  · rw [changeEq]
    exact coherent.install settings
  · rw [changeEq]
    exact ((coherent.install settings).loaded _).withOutbox outbox

/-- The text of an open document is what is scanned once a completion was asked
for in it. -/
theorem complete
    (coherent : session.Coherent)
    (uri : Uri)
    (position : Text.Position)
    (trigger : Trigger) :
    (session.complete uri position trigger).2.Coherent := by
  cases isOpen : session.document? uri with
  | none =>
      simp only [Session.complete, isOpen]
      exact coherent
  | some text =>
      obtain ⟨consultations, completeEq⟩ := session.exists_complete_eq isOpen position trigger
      have same := (session.activate uri text).workspace.backdrop_consultAll consultations
      rw [completeEq]
      refine ⟨?_, nofun, ?_, ?_⟩
      · intro other isActive
        obtain rfl : uri = other := Option.some.inj isActive
        exact ⟨text, isOpen, congrArg Backdrop.document same⟩
      · exact (congrArg Backdrop.scanInterval same).trans coherent.scanInterval
      · exact (congrArg Backdrop.recheckAfter same).trans coherent.recheckAfter

/-- One event keeps a session coherent. -/
theorem after
    (coherent : session.Coherent)
    (event : Event) :
    (session.after event).Coherent := by
  cases event with
  | setClock now =>
      exact ⟨coherent.active, coherent.inactive, coherent.scanInterval, coherent.recheckAfter⟩
  | setFiles files =>
      exact ⟨coherent.active, coherent.inactive, coherent.scanInterval, coherent.recheckAfter⟩
  | collectMessages => exact coherent.withOutbox []
  | connect folders root options =>
      exact ⟨coherent.active, coherent.inactive, coherent.scanInterval, coherent.recheckAfter⟩
  | ready =>
      obtain ⟨settings, outbox, readyEq⟩ := session.exists_ready_eq
      rw [Session.after, readyEq]
      exact ((coherent.install settings).loaded _).withOutbox outbox
  | reload =>
      obtain ⟨outbox, reloadEq⟩ := session.exists_reload_eq
      rw [Session.after, reloadEq]
      exact (coherent.loaded _).withOutbox outbox
  | openDocument uri text => exact (coherent.activate_store uri text).post _
  | changeDocument uri texts =>
      change (session.changeDocument uri texts).Coherent
      unfold changeDocument
      split
      · exact coherent.activate_store uri _
      · exact coherent
  | closeDocument uri => exact coherent.closeDocument uri
  | changeSettings change => exact coherent.changeSettings change
  | complete uri position trigger => exact coherent.complete uri position trigger

/-- Every state of a run is coherent. -/
theorem run
    (coherent : session.Coherent)
    (events : List Event) :
    (session.run events).Coherent := by
  induction events generalizing session with
  | nil => exact coherent
  | cons event rest inductionHypothesis => exact inductionHypothesis (coherent.after event)

end Coherent

theorem coherent_start
    (now : Time)
    (files : FileTree)
    (home : String)
    (extraSources : List String)
    (hasClient : Bool) :
    (start now files home extraSources hasClient).Coherent := by
  unfold start
  exact ⟨nofun, fun _ => rfl, rfl, rfl⟩

/-- In every state of every run, the document that is being edited is open and
its text is the one that is scanned, and without such a document none is; the
least time between two scans and the age at which kept scans are checked are
those of the settings in force.  Changed settings that cannot be read leave
everything as it is, apart from the message about them. -/
theorem run_keeps_copies_in_step
    (now : Time)
    (files : FileTree)
    (home : String)
    (extraSources : List String)
    (hasClient : Bool)
    (events : List Event) :
    let session := (start now files home extraSources hasClient).run events
    (∀ uri, session.active = some uri →
      ∃ text, session.document? uri = some text ∧ session.workspace.document = some text) ∧
    (session.active = none → session.workspace.document = none) ∧
    session.workspace.scanInterval = session.settings.variableScanInterval ∧
    session.workspace.resolver.recheckAfter = session.settings.includeRecheck ∧
    ∀ change failure, Settings.Layer.ofChange change = .error failure →
      { session.changeSettings change with outbox := session.outbox } = session := by
  intro session
  have coherent : session.Coherent :=
    (coherent_start now files home extraSources hasClient).run events
  refine ⟨coherent.active, coherent.inactive, coherent.scanInterval, coherent.recheckAfter, ?_⟩
  intro change failure unreadable
  obtain ⟨outbox, postEq⟩ :=
    session.exists_post_eq (.warn ("Ignoring settings: " ++ failure.message))
  rw [Session.changeSettings, unreadable]
  dsimp only
  rw [postEq]

/-- A document that is stored nowhere. -/
def samplePage : Uri :=
  { scheme := "untitled", authority := none, path := .whole "page", query := none
    fragment := none }

/-- A document is opened and changed, the time between two scans is set, and a
completion is asked for. -/
def sampleEvents : List Event :=
  [.connect [] none none, .ready, .openDocument samplePage "$",
    .changeSettings (.object [("variableScanIntervalMs", .natural 5)]),
    .changeDocument samplePage ["$\x7b", "$\x7ba"], .complete samplePage ⟨0, 3⟩ .explicit]

/-- The last text is being scanned, at the new interval, and a text in place of
settings changes nothing. -/
theorem sampleEvents_keep_copies_in_step :
    let session := (start 0 {} "/home" [] true).run sampleEvents
    session.active = some samplePage ∧ session.document? samplePage = some "$\x7ba" ∧
      session.workspace.document = some "$\x7ba" ∧ session.workspace.scanInterval = 5 ∧
      { session.changeSettings (.string "fast") with outbox := session.outbox } = session := by
  obtain ⟨active, -, scanInterval, -, unchanged⟩ :=
    run_keeps_copies_in_step 0 {} "/home" [] true sampleEvents
  generalize sessionEq : (start 0 {} "/home" [] true).run sampleEvents = session at *
  have facts : session.active = some samplePage ∧
      session.document? samplePage = some "$\x7ba" ∧
      session.settings.variableScanInterval = 5 := by
    rw [← sessionEq]
    decide +kernel
  obtain ⟨isActive, isOpen, interval⟩ := facts
  obtain ⟨text, found, scanned⟩ := active samplePage isActive
  rw [isOpen] at found
  refine ⟨isActive, isOpen, scanned.trans found.symm, scanInterval.trans interval, ?_⟩
  exact unchanged (.string "fast") .sent rfl

end Session
end JspCompletion
