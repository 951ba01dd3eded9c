import JspCompletion.Proofs.Session.Builtins
import JspCompletion.Proofs.Tld.Completeness

/-!
# Where the libraries of a session come from

A session takes libraries from descriptors only.  Loading leaves exactly the
libraries of the files that it reads, and nothing else registers one: a document
scanner keeps to its variables, and all other events leave the registry alone.

So in every state of a session each registered library was read from a
descriptor, and its tags refer to it.
-/

namespace JspCompletion

open Registry

/-! ## Libraries that are read -/

/-- The tag is one of the library, and refers to it. -/
structure TagLibrary.Owns (library : TagLibrary) (tag : LibraryTag) : Prop where
  listed : tag ∈ library.tags
  uri : tag.uri = library.uri

namespace Tld

/-- A library that is read from a descriptor owns its tags. -/
theorem owns_of_parse
    {path text : String}
    {library : TagLibrary}
    (parsed : parse path text = .ok library) :
    ∀ tag ∈ library.tags, library.Owns tag := by
  rw [parse] at parsed
  split at parsed
  · cases parsed
  · rename_i document _
    have described := (document.checks_toLibrary path).holds_of_ok parsed
    exact fun tag member => ⟨member, described.uri_of_mem_tags tag member⟩

/-- The library is what some descriptor says. -/
def IsRead (library : TagLibrary) : Prop :=
  ∃ path text, parse path text = .ok library

theorem isRead_of_readFile
    {files : FileTree}
    {source : SourceFile}
    {library : TagLibrary}
    (read : readFile files source = .ok library) :
    IsRead library := by
  rw [readFile] at read
  split at read
  · exact ⟨source.shown, _, read⟩
  · cases read

theorem exists_of_mem_provided
    {files : List ParsedFile}
    {library : TagLibrary}
    (listed : library ∈ provided files) :
    ∃ path, (path, .ok library) ∈ files := by
  obtain ⟨⟨path, result⟩, member, isLibrary⟩ := List.mem_filterMap.mp listed
  cases result with
  | error failure => cases isLibrary
  | ok other =>
      cases isLibrary
      exact ⟨path, member⟩

/-- What is registered after loading was provided by one of the files. -/
theorem exists_of_mem_libraries_load
    {registry : Registry}
    (stocked : registry.Stocked)
    (now : Time)
    (files : List ParsedFile)
    {library : TagLibrary}
    (registered : library ∈ (load registry now files).2.libraries) :
    ∃ path, (path, .ok library) ∈ files := by
  obtain ⟨-, shelfEq, -⟩ := load_of_stocked stocked now files
  obtain ⟨item, member, isLibrary⟩ := List.mem_filterMap.mp registered
  have shelved : .library library ∈ (load registry now files).2.libraryDescriptors := by
    rw [libraryDescriptors, List.mem_filter]
    exact ⟨List.mem_map.mpr ⟨item, member, Descriptor.library?_eq_some_iff.mp isLibrary⟩, rfl⟩
  rw [shelfEq] at shelved
  obtain ⟨other, left, listed⟩ := List.mem_flatMap.mp shelved
  obtain rfl : library = other := by
    simpa [TagLibrary.descriptors, TagLibrary.members] using listed
  obtain ⟨front, back, providedEq, -⟩ := (mem_lastOfEachUri_iff _ library).mp left
  apply exists_of_mem_provided
  rw [providedEq]
  exact List.mem_append_right front List.mem_cons_self

end Tld

/-! ## A workspace with a document scanner -/

/-- While the scanner keeps to itself, no library comes up. -/
theorem Workspace.Attended.mem_libraries_of_keepsToItself
    {first : Registry}
    {before after : Workspace}
    {work later : Work}
    (attended : before.Attended first work)
    (attendedAfter : after.Attended first later)
    (keepsToItself : work.KeepsToItself later)
    {library : TagLibrary}
    (registered : library ∈ after.registry.libraries) :
    library ∈ before.registry.libraries := by
  rw [attendedAfter.registry] at registered
  rw [attended.registry, attended.shared.sound.consistent.mem_libraries_iff]
  obtain ⟨id, entry, found, isLibrary⟩ :=
    (attendedAfter.shared.sound.consistent.mem_libraries_iff library).mp registered
  have notMade : id ∉ later.made := by
    intro made
    have ofKind := (attendedAfter.shared.exists_owned made found).1
    rw [isLibrary] at ofKind
    cases ofKind
  rw [keepsToItself.unchanged id notMade] at found
  exact ⟨id, entry, found, isLibrary⟩

/-! ## Events -/

namespace Session

section Events

variable {first : Registry} {session : Session} {work : Work} {library : TagLibrary}

theorem isRead_of_mem_loaded
    (attended : session.workspace.Attended first work)
    (foundation : first.IsFoundation)
    (registered : library ∈
      (session.loaded session.readFiles).workspace.registry.libraries) :
    Tld.IsRead library := by
  have stocked : session.workspace.registry.Stocked := by
    rw [attended.registry]
    exact attended.shared.stocked foundation
  obtain ⟨path, provided⟩ := Tld.exists_of_mem_libraries_load stocked _ _ registered
  obtain ⟨source, -, fileEq⟩ := List.mem_map.mp provided
  exact Tld.isRead_of_readFile (Prod.mk.inj fileEq).2

/-- After an event, a library was registered before or was just read. -/
theorem mem_libraries_after
    (attended : session.workspace.Attended first work)
    (foundation : first.IsFoundation)
    (event : Event)
    (registered : library ∈ (session.after event).workspace.registry.libraries) :
    library ∈ session.workspace.registry.libraries ∨ Tld.IsRead library := by
  have installed (settings : Settings) : (session.install settings).workspace.Attended first work :=
    attended.congr rfl rfl
  have edited (isEditing : event.IsEditing) : library ∈ session.workspace.registry.libraries := by
    obtain ⟨later, attendedLater, keepsToItself⟩ := attended_after attended foundation event
    exact attended.mem_libraries_of_keepsToItself attendedLater (keepsToItself isEditing) registered
  cases event with
  | setClock | setFiles | collectMessages | connect => exact .inl registered
  | ready =>
      obtain ⟨settings, outbox, readyEq⟩ := session.exists_ready_eq
      rw [after, readyEq] at registered
      exact .inr (isRead_of_mem_loaded (installed settings) foundation registered)
  | reload =>
      obtain ⟨outbox, reloadEq⟩ := session.exists_reload_eq
      rw [after, reloadEq] at registered
      exact .inr (isRead_of_mem_loaded attended foundation registered)
  | changeSettings change =>
      obtain ⟨outbox, ⟨-, changeEq⟩ | ⟨settings, changeEq | changeEq⟩⟩ :=
        session.exists_changeSettings_eq change
      · rw [after, changeEq] at registered
        exact .inl registered
      · rw [after, changeEq] at registered
        exact .inl registered
      · rw [after, changeEq] at registered
        exact .inr (isRead_of_mem_loaded (installed settings) foundation registered)
  | openDocument | changeDocument | closeDocument | complete => exact .inl (edited trivial)

/-- What a run registers is read. -/
theorem mem_libraries_run
    (attended : session.workspace.Attended first work)
    (foundation : first.IsFoundation)
    (events : List Event)
    (registered : library ∈ (session.run events).workspace.registry.libraries) :
    library ∈ session.workspace.registry.libraries ∨ Tld.IsRead library := by
  induction events generalizing session work with
  | nil => exact .inl registered
  | cons event rest inductionHypothesis =>
      obtain ⟨later, attendedLater, -⟩ := attended_after attended foundation event
      rcases inductionHypothesis attendedLater registered with between | isRead
      · exact mem_libraries_after attended foundation event between
      · exact .inr isRead

end Events

/-- In every state of every run, each registered library was read from a
descriptor. -/
theorem isRead_of_registered
    (now : Time)
    (files : FileTree)
    (home : String)
    (extraSources : List String)
    (hasClient : Bool)
    (events : List Event)
    (library : TagLibrary)
    (registered : library ∈ ((start now files home extraSources hasClient).run
      events).workspace.registry.libraries) :
    Tld.IsRead library := by
  obtain ⟨all, made, -⟩ := Builtin.exists_descriptors
  have foundation := isFoundation_firstRegistry made now
  have attended := attended_start now files home extraSources hasClient foundation
  rcases mem_libraries_run attended foundation events registered with atStart | isRead
  · -- The built-in descriptors are no libraries.
    rw [attended.registry, foundation.sound.consistent.mem_libraries_iff] at atStart
    obtain ⟨id, entry, found, isLibrary⟩ := atStart
    have isLoose := foundation.loose id entry found
    rw [isLibrary] at isLoose
    exact isLoose.elim
  · exact isRead

end Session
end JspCompletion
