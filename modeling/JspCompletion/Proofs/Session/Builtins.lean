import JspCompletion.Proofs.Session.Run
import JspCompletion.Proofs.Variables.Shared
import JspCompletion.Proofs.Workspace.Variables

/-!
# Built-in descriptors in a session

A session registers the built-in descriptors before anything else.  From then on
its document scanner shares the registry with them and with the libraries, and
each party keeps to itself.

The main result says what this means for every state of a run: the built-in
descriptors are there, unchanged and under the numbers that they were given; there
are no other keywords and scopes; no document takes the name of an implicit
object; and editing a document, or completing in it, changes nothing but variables
of the document scanner.
-/

namespace JspCompletion

open Registry

/-! ## The first registry -/

namespace Session

/-- The entry of a built-in descriptor. -/
def builtinEntry (now : Time) (element : Descriptor) : Entry :=
  { element, lifetime := none, lastChanged := now, owner := none }

section FirstRegistry

variable {all : List Descriptor} (made : Builtin.descriptors = .ok all) (now : Time)

include made

theorem firstRegistry_eq : firstRegistry now = ({} : Registry).addAll now none all := by
  unfold firstRegistry Builtin.register
  rw [made]
  rfl

theorem nextId_firstRegistry : (firstRegistry now).nextId = all.length := by
  rw [firstRegistry_eq made, nextId_addAll]
  exact Nat.zero_add _

/-- Built-in descriptors are numbered in order, from zero. -/
theorem entry?_firstRegistry (id : EntryId) :
    Registry.entry? (firstRegistry now) id = all[id.value]?.map (builtinEntry now) := by
  rw [firstRegistry_eq made, consistent_empty.entry?_addUnowned, if_neg (Nat.not_lt_zero _)]
  rfl

theorem isFoundation_firstRegistry : (firstRegistry now).IsFoundation := by
  have areLoose := Builtin.isLoose_of_mem_descriptors made
  refine ⟨?_, ?_, ?_⟩
  · rw [firstRegistry_eq made]
    exact sound_empty.addAll now all areLoose
  · intro id entry found
    rw [entry?_firstRegistry made] at found
    obtain ⟨element, listed, rfl⟩ := Option.map_eq_some_iff.mp found
    exact areLoose element (List.mem_of_getElem? listed)
  · intro id entry found
    rw [entry?_firstRegistry made] at found
    obtain ⟨element, -, rfl⟩ := Option.map_eq_some_iff.mp found
    rfl

end FirstRegistry
end Session

/-! ## A workspace with a document scanner -/

namespace Workspace

/-- An entry is a variable of the document scanner, who alone listens. -/
def OwnedByScanner (workspace : Workspace) (id : EntryId) (entry : Entry) : Prop :=
  entry.element.kind = .var ∧
    ∃ scanner, workspace.listeners = [.documentScanner scanner] ∧
      ∃ item ∈ scanner.owned, item.id = id

/-- Nothing but variables of the document scanner differs. -/
def DiffersByScanner (before after : Workspace) : Prop :=
  ∀ id, after.registry.entry? id ≠ before.registry.entry? id →
    (∀ entry, before.registry.entry? id = some entry → before.OwnedByScanner id entry) ∧
      ∀ entry, after.registry.entry? id = some entry → after.OwnedByScanner id entry

/-- A document scanner alone listens, and shares the registry as its work says. -/
structure Attended (first : Registry) (workspace : Workspace) (work : Work) : Prop where
  listening : workspace.listeners = [.documentScanner work.scanner]
  registry : workspace.registry = work.registry
  shared : work.Shared first

/-- Asking for libraries leaves the registry alone, or puts a query to it. -/
theorem registry_declaredLibraries
    (workspace : Workspace)
    (text : List Char)
    (file : Option Path) :
    (workspace.declaredLibraries text file).2.registry = workspace.registry ∨
      ∃ query, (workspace.declaredLibraries text file).2.registry =
        (workspace.registry.query workspace.now query).2 := by
  change (Include.declaredLibraries ..).2.2 = _ ∨ ∃ query, (Include.declaredLibraries ..).2.2 = _
  unfold Include.declaredLibraries
  dsimp only
  split
  · exact .inl rfl
  · exact .inr ⟨_, rfl⟩

namespace Attended

variable {first : Registry} {workspace : Workspace} {work : Work}

theorem ownedByScanner
    (attended : workspace.Attended first work)
    {id : EntryId}
    {entry : Entry}
    (made : id ∈ work.made)
    (found : workspace.registry.entry? id = some entry) :
    workspace.OwnedByScanner id entry := by
  rw [attended.registry] at found
  obtain ⟨ofKind, owned⟩ := attended.shared.exists_owned made found
  exact ⟨ofKind, work.scanner, attended.listening, owned⟩

/-- What a scanner that keeps to itself has changed are its own variables. -/
theorem differsByScanner
    (attended : workspace.Attended first work)
    {after : Workspace}
    {later : Work}
    (attendedAfter : after.Attended first later)
    (keepsToItself : work.KeepsToItself later) :
    workspace.DiffersByScanner after := by
  intro id changed
  rw [attended.registry, attendedAfter.registry] at changed
  have madeLater : id ∈ later.made := by
    by_contra notMade
    exact changed (keepsToItself.unchanged id notMade)
  refine ⟨?_, fun entry found => attendedAfter.ownedByScanner madeLater found⟩
  intro entry found
  rcases keepsToItself.made_new id madeLater with made | isNew
  · exact attended.ownedByScanner made found
  · -- An entry that was there has a number that was used.
    rw [attended.registry] at found
    have used := attended.shared.sound.consistent.below _ (mem_of_entry?_eq_some found)
    exact absurd used (Nat.not_lt_of_le isNew)

theorem congr
    (attended : workspace.Attended first work)
    {other : Workspace}
    (sameListeners : other.listeners = workspace.listeners)
    (sameRegistry : other.registry = workspace.registry) :
    other.Attended first work :=
  ⟨sameListeners.trans attended.listening, sameRegistry.trans attended.registry, attended.shared⟩

/-! ## Questions -/

theorem broadcast
    (attended : workspace.Attended first work)
    (foundation : first.IsFoundation) :
    ∃ later, workspace.broadcast.Attended first later ∧ work.KeepsToItself later := by
  by_cases scansNow : workspace.scans = true
  · have shared := attended.shared.withLastScan workspace.now
    let scanning : Work :=
      { work with scanner := { work.scanner with lastScan := some workspace.now } }
    obtain ⟨sharedAfter, keepsToItself⟩ := shared.sweep foundation workspace.now
      workspace.activeText workspace.scanInterval
    have broadcastEq := broadcast_of_scans attended.listening scansNow
    rw [attended.registry] at broadcastEq
    refine ⟨scanning.sweep workspace.now workspace.activeText workspace.scanInterval,
      ⟨?_, ?_, sharedAfter⟩, ?_⟩
    · rw [broadcastEq]
      rfl
    · rw [broadcastEq]
      rfl
    · have same : work.KeepsToItself scanning :=
        ⟨Nat.le_refl _, List.Subset.refl _, fun _ => Or.inl, fun _ _ => rfl⟩
      exact same.trans keepsToItself
  · rw [broadcast_of_not_scans attended.listening (Bool.eq_false_iff.mpr scansNow)]
    exact ⟨work, attended, .refl work⟩

/-- A query that the scanner is not told of. -/
theorem queryRegistry
    (attended : workspace.Attended first work)
    (foundation : first.IsFoundation)
    (now : Time)
    (query : Query) :
    ∃ later,
      { workspace with registry := (workspace.registry.query now query).2 }.Attended first later ∧
        work.KeepsToItself later := by
  obtain ⟨shared, keepsToItself⟩ := attended.shared.query foundation now query
  refine ⟨{ work with registry := (work.registry.query now query).2 },
    ⟨attended.listening, ?_, shared⟩, keepsToItself⟩
  rw [attended.registry]

theorem consult
    (attended : workspace.Attended first work)
    (foundation : first.IsFoundation)
    (consultation : Consultation) :
    ∃ later, (workspace.consult consultation).Attended first later ∧
      work.KeepsToItself later := by
  cases consultation with
  | libraries text file =>
      rcases registry_declaredLibraries workspace text file with same | ⟨query, queried⟩
      · exact ⟨work, attended.congr rfl same, .refl work⟩
      · obtain ⟨later, attendedLater, keepsToItself⟩ :=
          attended.queryRegistry foundation workspace.now query
        exact ⟨later, attendedLater.congr rfl queried, keepsToItself⟩
  | entries query =>
      obtain ⟨called, attendedCalled, keepsFirst⟩ := attended.broadcast foundation
      obtain ⟨later, attendedLater, keepsSecond⟩ :=
        attendedCalled.queryRegistry foundation workspace.broadcast.now query
      exact ⟨later, attendedLater, keepsFirst.trans keepsSecond⟩

/-- Whatever is asked, the scanner keeps to itself. -/
theorem consultAll
    (attended : workspace.Attended first work)
    (foundation : first.IsFoundation)
    (consultations : List Consultation) :
    ∃ later, (workspace.consultAll consultations).Attended first later ∧
      work.KeepsToItself later := by
  induction consultations generalizing workspace work with
  | nil => exact ⟨work, attended, .refl work⟩
  | cons consultation rest inductionHypothesis =>
      obtain ⟨between, attendedBetween, keepsFirst⟩ := attended.consult foundation consultation
      obtain ⟨later, attendedLater, keepsSecond⟩ := inductionHypothesis attendedBetween
      exact ⟨later, attendedLater, keepsFirst.trans keepsSecond⟩

end Attended
end Workspace

/-! ## Events -/

namespace Session

/-- A document is opened, changed or closed, or completed in. -/
def Event.IsEditing : Event → Prop
  | .openDocument _ _ | .changeDocument _ _ | .closeDocument _ | .complete _ _ _ => True
  | _ => False

section Events

variable {first : Registry} {session : Session} {work : Work}

theorem attended_loaded
    (attended : session.workspace.Attended first work)
    (foundation : first.IsFoundation)
    (files : List Tld.ParsedFile) :
    ∃ later, (session.loaded files).workspace.Attended first later := by
  have shared := attended.shared.load foundation session.workspace.now files
  rw [← attended.registry] at shared
  let later : Work := { work with registry := (session.loaded files).workspace.registry }
  exact ⟨later, attended.listening, rfl, shared⟩

/-- Opening, changing and closing documents has nothing to do with the
registry. -/
theorem attended_openDocument
    (attended : session.workspace.Attended first work)
    (uri : Uri)
    (text : String) :
    (session.openDocument uri text).workspace.Attended first work := by
  unfold openDocument
  obtain ⟨outbox, postEq⟩ := exists_post_eq ((session.activate uri text).store uri text)
    (.note ("Opened file: " ++ uri.render))
  rw [postEq]
  exact attended.congr rfl rfl

theorem attended_changeDocument
    (attended : session.workspace.Attended first work)
    (uri : Uri)
    (texts : List String) :
    (session.changeDocument uri texts).workspace.Attended first work := by
  unfold changeDocument
  split
  · exact attended.congr rfl rfl
  · exact attended

theorem attended_closeDocument
    (attended : session.workspace.Attended first work)
    (uri : Uri) :
    (session.closeDocument uri).workspace.Attended first work := by
  unfold closeDocument
  dsimp only
  obtain ⟨outbox, postEq⟩ := exists_post_eq
    ({ session with documents := session.documents.filter (·.1 != uri) }.deactivate uri)
    (.note ("Closed file: " ++ uri.render))
  rw [postEq]
  unfold deactivate
  split
  · exact attended.congr rfl rfl
  · exact attended.congr rfl rfl

theorem attended_complete
    (attended : session.workspace.Attended first work)
    (foundation : first.IsFoundation)
    (uri : Uri)
    (position : Text.Position)
    (trigger : Trigger) :
    ∃ later, (session.complete uri position trigger).2.workspace.Attended first later ∧
      work.KeepsToItself later := by
  cases isOpen : session.document? uri with
  | none =>
      simp only [complete, isOpen]
      exact ⟨work, attended, .refl work⟩
  | some text =>
      obtain ⟨consultations, completeEq⟩ := session.exists_complete_eq isOpen position trigger
      have active : (session.activate uri text).workspace.Attended first work :=
        attended.congr rfl rfl
      rw [completeEq]
      exact active.consultAll foundation consultations

/-- One event leaves the registry shared as it was, and an editing event changes
nothing but what is the scanner's. -/
theorem attended_after
    (attended : session.workspace.Attended first work)
    (foundation : first.IsFoundation)
    (event : Event) :
    ∃ later, (session.after event).workspace.Attended first later ∧
      (event.IsEditing → work.KeepsToItself later) := by
  have installed (settings : Settings) : (session.install settings).workspace.Attended first work :=
    attended.congr rfl rfl
  cases event with
  | setClock | setFiles | collectMessages | connect => exact ⟨work, attended.congr rfl rfl, False.elim⟩
  | ready =>
      obtain ⟨settings, outbox, readyEq⟩ := session.exists_ready_eq
      obtain ⟨later, attendedLater⟩ := attended_loaded (installed settings) foundation _
      rw [after, readyEq]
      exact ⟨later, attendedLater, False.elim⟩
  | reload =>
      obtain ⟨outbox, reloadEq⟩ := session.exists_reload_eq
      obtain ⟨later, attendedLater⟩ := attended_loaded attended foundation _
      rw [after, reloadEq]
      exact ⟨later, attendedLater, False.elim⟩
  | changeSettings change =>
      obtain ⟨outbox, ⟨-, changeEq⟩ | ⟨settings, changeEq | changeEq⟩⟩ :=
        session.exists_changeSettings_eq change
      · rw [after, changeEq]
        exact ⟨work, attended, False.elim⟩
      · rw [after, changeEq]
        exact ⟨work, installed settings, False.elim⟩
      · obtain ⟨later, attendedLater⟩ := attended_loaded (installed settings) foundation _
        rw [after, changeEq]
        exact ⟨later, attendedLater, False.elim⟩
  | openDocument uri text =>
      exact ⟨work, attended_openDocument attended uri text, fun _ => .refl work⟩
  | changeDocument uri texts =>
      exact ⟨work, attended_changeDocument attended uri texts, fun _ => .refl work⟩
  | closeDocument uri => exact ⟨work, attended_closeDocument attended uri, fun _ => .refl work⟩
  | complete uri position trigger =>
      obtain ⟨later, attendedLater, keepsToItself⟩ :=
        attended_complete attended foundation uri position trigger
      exact ⟨later, attendedLater, fun _ => keepsToItself⟩

theorem attended_run
    (attended : session.workspace.Attended first work)
    (foundation : first.IsFoundation)
    (events : List Event) :
    ∃ later, (session.run events).workspace.Attended first later := by
  induction events generalizing session work with
  | nil => exact ⟨work, attended⟩
  | cons event rest inductionHypothesis =>
      obtain ⟨later, attendedLater, -⟩ := attended_after attended foundation event
      exact inductionHypothesis attendedLater

end Events

/-- A new session has a scanner that registered nothing yet. -/
theorem attended_start
    (now : Time)
    (files : FileTree)
    (home : String)
    (extraSources : List String)
    (hasClient : Bool)
    (foundation : (firstRegistry now).IsFoundation) :
    (start now files home extraSources hasClient).workspace.Attended (firstRegistry now)
      { registry := firstRegistry now } := by
  refine ⟨rfl, rfl, ?_⟩
  exact
    { faithful := Work.faithful_of_consistent foundation.sound.consistent
      sound := foundation.sound
      made_ge := by simp
      kept := fun _ _ => rfl
      others := by
        intro id entry late _ found
        have used := foundation.sound.consistent.below _ (mem_of_entry?_eq_some found)
        exact absurd used (Nat.not_lt_of_le late) }

/-! ## What stays -/

section Attended

variable {all : List Descriptor} {now : Time} {session : Session} {work : Work}

theorem entry?_builtin
    (made : Builtin.descriptors = .ok all)
    (attended : session.workspace.Attended (firstRegistry now) work)
    {index : Nat}
    {element : Descriptor}
    (listed : all[index]? = some element) :
    session.workspace.registry.entry? ⟨index⟩ = some (builtinEntry now element) := by
  have early : index < (firstRegistry now).nextId := by
    rw [nextId_firstRegistry made]
    exact (List.getElem?_eq_some_iff.mp listed).1
  rw [attended.registry, attended.shared.kept ⟨index⟩ early, entry?_firstRegistry made, listed]
  rfl

/-- What is neither a variable nor has to do with libraries is built in. -/
theorem exists_builtin_of_kind
    (made : Builtin.descriptors = .ok all)
    (attended : session.workspace.Attended (firstRegistry now) work)
    {id : EntryId}
    {entry : Entry}
    (found : session.workspace.registry.entry? id = some entry)
    (ofKind : entry.element.kind = .keyword ∨ entry.element.kind = .scope) :
    ∃ element, all[id.value]? = some element ∧ entry = builtinEntry now element := by
  rw [attended.registry] at found
  rcases Nat.lt_or_ge id.value (firstRegistry now).nextId with early | late
  · rw [attended.shared.kept id early, entry?_firstRegistry made] at found
    obtain ⟨element, listed, isEntry⟩ := Option.map_eq_some_iff.mp found
    exact ⟨element, listed, isEntry.symm⟩
  · exfalso
    by_cases isMade : id ∈ work.made
    · rw [(attended.shared.exists_owned isMade found).1] at ofKind
      simp at ofKind
    · have notLoose := (attended.shared.others id entry late isMade found).1
      cases element : entry.element with
      | library | function | tag =>
          rw [element] at ofKind
          simp [Descriptor.kind] at ofKind
      | _ =>
          rw [element] at notLoose
          exact notLoose trivial

/-- No two implicit objects have the same name. -/
theorem eq_of_variableName?
    (names : all.filterMap Descriptor.variableName? = Builtin.implicitObjectNames)
    {index other : Nat}
    {element otherElement : Descriptor}
    (listed : all[index]? = some element)
    (otherListed : all[other]? = some otherElement)
    {name : String}
    (named : element.variableName? = some name)
    (otherNamed : otherElement.variableName? = some name) :
    index = other := by
  have distinct : (all.filterMap Descriptor.variableName?).Nodup := by
    rw [names]
    decide
  rw [List.Nodup, List.pairwise_filterMap, List.pairwise_iff_getElem] at distinct
  obtain ⟨inside, rfl⟩ := List.getElem?_eq_some_iff.mp listed
  obtain ⟨otherInside, rfl⟩ := List.getElem?_eq_some_iff.mp otherListed
  rcases Nat.lt_trichotomy index other with before | same | behind
  · exact absurd rfl (distinct index other inside otherInside before _ named _ otherNamed)
  · exact same
  · exact absurd rfl (distinct other index otherInside inside behind _ otherNamed _ named)

/-- An implicit object is the only variable of its name. -/
theorem existsUnique_hasVariable
    (made : Builtin.descriptors = .ok all)
    (names : all.filterMap Descriptor.variableName? = Builtin.implicitObjectNames)
    (attended : session.workspace.Attended (firstRegistry now) work)
    {name : String}
    (isImplicit : name ∈ Builtin.implicitObjectNames) :
    ∃! id, session.workspace.registry.HasVariable id name := by
  rw [← names] at isImplicit
  obtain ⟨element, member, named⟩ := List.mem_filterMap.mp isImplicit
  obtain ⟨index, listed⟩ := List.getElem?_of_mem member
  have has : session.workspace.registry.HasVariable ⟨index⟩ name := by
    cases element with
    | var var =>
        refine ⟨var, ?_, Option.some.inj named⟩
        rw [entry?_builtin made attended listed]
        rfl
    | _ => cases named
  refine ⟨⟨index⟩, has, ?_⟩
  intro other otherHas
  by_cases isMade : other ∈ work.made
  · rw [attended.registry] at has otherHas
    exact (attended.shared.faithful.alone isMade otherHas has).symm
  · -- A variable of others was there first, so it is an implicit object.
    obtain ⟨var, elementFound, otherNamed⟩ := otherHas
    obtain ⟨entry, found, element⟩ := Option.map_eq_some_iff.mp elementFound
    rw [attended.registry] at found
    have apart := attended.shared.apart (isFoundation_firstRegistry made now)
    have early := apart.early (other, entry) (mem_of_entry?_eq_some found) isMade
      (by rw [element]; rfl)
    rw [attended.shared.kept other early, entry?_firstRegistry made] at found
    obtain ⟨otherElement, otherListed, rfl⟩ := Option.map_eq_some_iff.mp found
    have sameName : otherElement.variableName? = some name := by
      rw [← otherNamed, show otherElement = .var var from element]
      rfl
    exact congrArg EntryId.mk (eq_of_variableName? names otherListed listed sameName named)

end Attended

/-- In every state of every run, each built-in descriptor is there as it was
registered, under its own number; there are no other keywords and scopes; and
each implicit object is the only variable of its name.  Opening, changing and
closing a document and completing in it change nothing but variables of the
document scanner. -/
theorem run_keeps_builtins
    (now : Time)
    (files : FileTree)
    (home : String)
    (extraSources : List String)
    (hasClient : Bool)
    (events : List Event) :
    let session := (start now files home extraSources hasClient).run events
    let registry := session.workspace.registry
    ∃ all, Builtin.descriptors = .ok all ∧
      (∀ index element, all[index]? = some element →
        registry.entry? ⟨index⟩ = some (builtinEntry now element)) ∧
      (∀ id entry, registry.entry? id = some entry →
        entry.element.kind = .keyword ∨ entry.element.kind = .scope →
        ∃ element, all[id.value]? = some element ∧ entry = builtinEntry now element) ∧
      (∀ name ∈ Builtin.implicitObjectNames, ∃! id, registry.HasVariable id name) ∧
      ∀ event : Event, event.IsEditing →
        session.workspace.DiffersByScanner (session.after event).workspace := by
  intro session registry
  obtain ⟨all, made, names⟩ := Builtin.exists_descriptors
  have foundation := isFoundation_firstRegistry made now
  obtain ⟨work, attended⟩ := attended_run
    (attended_start now files home extraSources hasClient foundation) foundation events
  refine ⟨all, made, ?_, ?_, ?_, ?_⟩
  · intro index element listed
    exact entry?_builtin made attended listed
  · intro id entry found ofKind
    exact exists_builtin_of_kind made attended found ofKind
  · intro name isImplicit
    exact existsUnique_hasVariable made names attended isImplicit
  · intro event isEditing
    obtain ⟨later, attendedAfter, keepsToItself⟩ := attended_after attended foundation event
    exact attended.differsByScanner attendedAfter (keepsToItself isEditing)

/-- A variable of a page was scanned, and then the page is changed to declare
another one, which has the name of an implicit object. -/
def sampleEdits : List Event :=
  [ .openDocument samplePage "<jsp:useBean id=\"x\" class=\"A\"/>$\x7b",
    .complete samplePage ⟨0, 33⟩ .explicit,
    .setClock 900,
    .changeDocument samplePage ["<jsp:useBean id=\"param\" class=\"A\"/>$\x7b"] ]

/-- Another completion removes the variable that was scanned, and the implicit
object stays the only variable of its name. -/
theorem sampleEdits_keep_builtins :
    let session := (start 0 {} "/home" [] true).run sampleEdits
    let after := session.after (.complete samplePage ⟨0, 37⟩ .explicit)
    session.workspace.registry.size = 28 ∧ after.workspace.registry.size = 27 ∧
      session.workspace.DiffersByScanner after.workspace ∧
      ∃! id, after.workspace.registry.HasVariable id "param" := by
  obtain ⟨-, -, -, -, -, differs⟩ := run_keeps_builtins 0 {} "/home" [] true sampleEdits
  obtain ⟨-, -, -, -, alone, -⟩ := run_keeps_builtins 0 {} "/home" [] true
    (sampleEdits ++ [.complete samplePage ⟨0, 37⟩ .explicit])
  rw [run, List.foldl_concat, ← run] at alone
  refine ⟨by decide +kernel, by decide +kernel, differs _ trivial, ?_⟩
  have isImplicit : "param" ∈ Builtin.implicitObjectNames := by decide
  exact alone "param" isImplicit

end Session
end JspCompletion
