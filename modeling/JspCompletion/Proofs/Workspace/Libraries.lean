import JspCompletion.Proofs.Registry.Arrangement
import JspCompletion.Proofs.Variables.Desired
import JspCompletion.Tld.Load
import JspCompletion.Workspace

/-!
# Libraries over whole runs

A run starts from nothing and mixes, in any order, the registration of built-in
descriptors, the registration and loading of libraries, their removal, queries,
and the work of any number of scanners, some of which are called by refreshing
queries.

The main result says that in every state of a run no two libraries share a uri,
and that the registered functions and tags are those of the registered
libraries, in order.
-/

namespace JspCompletion

open Registry

/-! ## Runs -/

/-- A workspace with scanners that are not subscribed to it. -/
structure Site where
  workspace : Workspace := {}
  /-- Any number of scanners, all new in the beginning. -/
  scanners : Nat → VariableScanner := fun _ => {}

/-- Something that happens at a site. -/
inductive Activity
  /-- The clock is set. -/
  | setClock (now : Time)
  /-- The active document changes. -/
  | edit (document : Option String)
  /-- The least time between two scans changes. -/
  | setInterval (interval : Nat)
  /-- A new scanner is subscribed. -/
  | subscribe
  | registerBuiltins
  | importLibrary (library : TagLibrary)
  | load (files : List Tld.ParsedFile)
  | remove (id : EntryId)
  | get (id : EntryId)
  | query (query : Query) (refresh : Bool)
  /-- A scanner that is not subscribed sweeps a text. -/
  | sweep (scanner : Nat) (text : List Char) (span : Nat)

namespace Site

/-- The site with another registry. -/
def withRegistry (site : Site) (registry : Registry) : Site :=
  { site with workspace := { site.workspace with registry } }

/-- The site after something happened.  What is refused changes nothing. -/
def after (site : Site) : Activity → Site
  | .setClock now => { site with workspace := { site.workspace with now } }
  | .edit document => { site with workspace := { site.workspace with document } }
  | .setInterval interval =>
      { site with workspace := { site.workspace with scanInterval := interval } }
  | .subscribe => { site with workspace := site.workspace.subscribe (.documentScanner {}) }
  | .registerBuiltins =>
      match Builtin.register site.workspace.registry site.workspace.now with
      | .ok (_, registry) => site.withRegistry registry
      | .error _ => site
  | .importLibrary library =>
      site.withRegistry (site.workspace.registry.importLibrary site.workspace.now library).2
  | .load files =>
      site.withRegistry (Tld.load site.workspace.registry site.workspace.now files).2
  | .remove id =>
      match site.workspace.registry.remove id with
      | .ok (_, registry) => site.withRegistry registry
      | .error _ => site
  | .get id => site.withRegistry (site.workspace.registry.get site.workspace.now id).2
  | .query query refresh => { site with workspace := (site.workspace.query query refresh).2 }
  | .sweep scanner text span =>
      let (swept, registry) :=
        (site.scanners scanner).sweep site.workspace.now text span site.workspace.registry
      { site.withRegistry registry with
        scanners := fun other => if other = scanner then swept else site.scanners other }

/-- The site after the activities of a run. -/
def run (site : Site) (activities : List Activity) : Site :=
  activities.foldl after site

/-- Entries that are removed on their own are libraries. -/
def Allows (site : Site) : Activity → Prop
  | .remove id => ∀ entry, site.workspace.registry.entry? id = some entry →
      entry.element.kind = .library
  | _ => True

/-- Everything in a run is allowed where it happens. -/
def AllowsAll (site : Site) : List Activity → Prop
  | [] => True
  | activity :: rest => site.Allows activity ∧ (site.after activity).AllowsAll rest

end Site

/-! ## What a registry comes to -/

namespace Registry

/-- A sound registry in which known identities stand for what they stood
for. -/
structure Advances (before after : Registry) : Prop where
  sound : after.Sound
  keeps : Keeps before after

theorem Advances.trans
    {before between after : Registry}
    (first : Advances before between)
    (second : Advances between after) :
    Advances before after :=
  { sound := second.sound
    keeps := first.keeps.trans second.keeps }

namespace Sound

variable {registry : Registry}

theorem advances_self
    (sound : registry.Sound) :
    Advances registry registry :=
  ⟨sound, Keeps.refl registry⟩

theorem advances_query
    (sound : registry.Sound)
    (now : Time)
    (query : Query) :
    Advances registry (registry.query now query).2 :=
  ⟨sound.query now query, sound.consistent.keeps_readAll now query _⟩

theorem advances_removeAll
    (sound : registry.Sound)
    (roots : List EntryId)
    (areRoots : ∀ id ∈ roots, registry.IsRoot id) :
    Advances registry (registry.removeAll roots) :=
  ⟨sound.removeAll roots areRoots, sound.consistent.keeps_removeAll roots⟩

theorem advances_importLibrary
    (sound : registry.Sound)
    (now : Time)
    (library : TagLibrary) :
    Advances registry (registry.importLibrary now library).2 :=
  ⟨sound.importLibrary now library, sound.consistent.keeps_importLibrary now library⟩

end Sound
end Registry

/-! ## Built-in descriptors -/

theorem exists_of_bind_eq_ok
    {ε α β : Type}
    {first : Except ε α}
    {next : α → Except ε β}
    {result : β}
    (made : first >>= next = .ok result) :
    ∃ item, first = .ok item ∧ next item = .ok result := by
  cases first with
  | error failure => cases made
  | ok item => exact ⟨item, rfl, made⟩

namespace Builtin

/-- What holds of every descriptor that may be made holds of all that are. -/
theorem forall_of_mapM_eq_ok
    {α β : Type}
    {make : α → Except DescriptorError β}
    {holds : β → Prop}
    (made : ∀ item result, make item = .ok result → holds result)
    {items : List α}
    {results : List β}
    (all : items.mapM make = .ok results) :
    ∀ result ∈ results, holds result := by
  induction items generalizing results with
  | nil =>
      cases all
      simp
  | cons item rest inductionHypothesis =>
      rw [List.mapM_cons] at all
      obtain ⟨first, firstMade, all⟩ := exists_of_bind_eq_ok all
      obtain ⟨later, laterMade, all⟩ := exists_of_bind_eq_ok all
      cases all
      intro result member
      rcases List.mem_cons.mp member with rfl | behind
      · exact made item result firstMade
      · exact inductionHypothesis laterMade result behind

theorem isLoose_of_map_eq_ok
    {α : Type}
    (wrap : α → Descriptor)
    (loose : ∀ item, (wrap item).IsLoose)
    {made : Except DescriptorError α}
    {descriptor : Descriptor}
    (wrapped : wrap <$> made = .ok descriptor) :
    descriptor.IsLoose := by
  cases made with
  | error failure => cases wrapped
  | ok item =>
      cases wrapped
      exact loose item

/-- No built-in descriptor has to do with libraries. -/
theorem isLoose_of_mem_descriptors
    {all : List Descriptor}
    (made : descriptors = .ok all) :
    ∀ descriptor ∈ all, descriptor.IsLoose := by
  obtain ⟨words, wordsMade, made⟩ := exists_of_bind_eq_ok made
  obtain ⟨objects, objectsMade, made⟩ := exists_of_bind_eq_ok made
  obtain ⟨scopes, scopesMade, made⟩ := exists_of_bind_eq_ok made
  cases made
  intro descriptor member
  rcases List.mem_append.mp member with earlier | inScopes
  · rcases List.mem_append.mp earlier with inWords | inObjects
    · exact forall_of_mapM_eq_ok
        (fun _ _ => isLoose_of_map_eq_ok Descriptor.keyword fun _ => trivial) wordsMade descriptor inWords
    · exact forall_of_mapM_eq_ok
        (fun _ _ => isLoose_of_map_eq_ok Descriptor.var fun _ => trivial) objectsMade descriptor inObjects
  · exact forall_of_mapM_eq_ok
      (fun _ _ => isLoose_of_map_eq_ok Descriptor.scope fun _ => trivial) scopesMade descriptor inScopes

theorem advances_register
    {registry after : Registry}
    (sound : registry.Sound)
    {now : Time}
    {count : Nat}
    (registered : register registry now = .ok (count, after)) :
    Advances registry after := by
  obtain ⟨all, made, registered⟩ := exists_of_bind_eq_ok registered
  cases registered
  exact ⟨sound.addAll now all (isLoose_of_mem_descriptors made), registry.keeps_addAll now none all⟩

end Builtin

/-! ## Loading -/

namespace Tld

theorem loadFile_registry
    (now : Time)
    (state : LoadReport × Registry)
    (file : ParsedFile)
    (sound : state.2.Sound) :
    Advances state.2 (loadFile now state file).2 := by
  unfold loadFile
  cases file.2 with
  | error failure => exact sound.advances_self
  | ok library => exact sound.advances_importLibrary now library

theorem dropPrevious_registry
    (state : LoadReport × Registry)
    (id : EntryId) :
    (dropPrevious state id).2 = state.2.removeAll [id] := by
  obtain ⟨report, registry⟩ := state
  unfold dropPrevious Registry.remove
  cases found : registry.entry? id with
  | none =>
      have absent : ¬registry.contains id = true := by
        simp [contains, found]
      simp only [found]
      rw [removeAll, if_neg absent, removeAll]
  | some entry =>
      simp only [found]
      cases entry.element <;> rfl

theorem advances_foldl_loadFile
    (now : Time)
    (files : List ParsedFile)
    (state : LoadReport × Registry)
    (sound : state.2.Sound) :
    Advances state.2 (files.foldl (loadFile now) state).2 := by
  induction files generalizing state with
  | nil => exact sound.advances_self
  | cons file rest inductionHypothesis =>
      have loaded := loadFile_registry now state file sound
      exact loaded.trans (inductionHypothesis _ loaded.sound)

theorem advances_foldl_dropPrevious
    (previous : List EntryId)
    (state : LoadReport × Registry)
    (sound : state.2.Sound)
    (areRoots : ∀ id ∈ previous, state.2.IsRoot id) :
    Advances state.2 (previous.foldl dropPrevious state).2 := by
  induction previous generalizing state with
  | nil => exact sound.advances_self
  | cons id rest inductionHypothesis =>
      have dropped : Advances state.2 (dropPrevious state id).2 := by
        rw [dropPrevious_registry]
        apply sound.advances_removeAll
        intro other listed
        rw [List.mem_singleton.mp listed]
        exact areRoots id List.mem_cons_self
      refine dropped.trans (inductionHypothesis _ dropped.sound ?_)
      intro other listed
      exact (areRoots other (List.mem_cons_of_mem _ listed)).keeps sound.steady dropped.keeps

/-- Loading removes libraries only, which are roots. -/
theorem advances_load
    {registry : Registry}
    (sound : registry.Sound)
    (now : Time)
    (files : List ParsedFile) :
    Advances registry (load registry now files).2 := by
  have queried := sound.advances_query now { kind := some .library }
  have loaded := advances_foldl_loadFile now files ({}, _) queried.sound
  have both := queried.trans loaded
  refine both.trans (advances_foldl_dropPrevious _ _ loaded.sound ?_)
  intro id listed
  obtain ⟨foundEq, -⟩ := sound.consistent.query_of_steady now { kind := some .library }
    fun item member _ => sound.steady item member
  change id ∈ (registry.query now { kind := some .library }).1.map (·.1) at listed
  rw [foundEq, List.map_map] at listed
  obtain ⟨item, member, rfl⟩ := List.mem_map.mp listed
  obtain ⟨itemMember, selected⟩ := List.mem_filter.mp member
  obtain ⟨library, isLibrary⟩ : ∃ library, item.2.element = .library library := by
    cases element : item.2.element <;> simp_all [Query.selects, Descriptor.kind]
  exact (sound.isRoot_of_library itemMember isLibrary).keeps sound.steady both.keeps

end Tld

/-! ## Scanners -/

namespace VariableScanner

/-- All variables of the scanner are roots. -/
def HoldsRoots (scanner : VariableScanner) (registry : Registry) : Prop :=
  ∀ item ∈ scanner.owned, registry.IsRoot item.id

theorem HoldsRoots.keeps
    {scanner : VariableScanner}
    {before after : Registry}
    (holds : scanner.HoldsRoots before)
    (sound : before.Sound)
    (keeps : Keeps before after) :
    scanner.HoldsRoots after :=
  fun item member => (holds item member).keeps sound.steady keeps

theorem advances_addVariable
    (now : Time)
    (span : Nat)
    (reserved : List String)
    (state : VariableScanner × Registry)
    (wanted : String × Option String)
    (sound : state.2.Sound)
    (holds : state.1.HoldsRoots state.2) :
    Advances state.2 (addVariable now span reserved state wanted).2 ∧
      (addVariable now span reserved state wanted).1.HoldsRoots
        (addVariable now span reserved state wanted).2 := by
  rcases addVariable_cases now span reserved state wanted with same | ⟨var, registered⟩
  · rw [same]
    exact ⟨sound.advances_self, holds⟩
  · rw [registered]
    have added : Advances state.2 (register now span state wanted var).2 := by
      have isLoose : (Descriptor.var var).IsLoose := trivial
      refine ⟨sound.add now isLoose ?_, keeps_add _ now _ none _⟩
      rintro life ⟨⟩
      rfl
    refine ⟨added, ?_⟩
    intro item member
    rcases List.mem_append.mp member with old | new
    · exact (holds.keeps sound added.keeps) item old
    · rw [List.mem_singleton.mp new]
      refine ⟨Nat.lt_succ_self _, ?_⟩
      intro other otherMember sameId
      rcases List.mem_append.mp otherMember with known | fresh
      · have below := sound.consistent.below other known
        rw [sameId] at below
        exact absurd below (Nat.lt_irrefl _)
      · rw [List.mem_singleton.mp fresh]

theorem advances_foldl_addVariable
    (now : Time)
    (span : Nat)
    (reserved : List String)
    (desired : List (String × Option String))
    (state : VariableScanner × Registry)
    (sound : state.2.Sound)
    (holds : state.1.HoldsRoots state.2) :
    Advances state.2 (desired.foldl (addVariable now span reserved) state).2 ∧
      (desired.foldl (addVariable now span reserved) state).1.HoldsRoots
        (desired.foldl (addVariable now span reserved) state).2 := by
  induction desired generalizing state with
  | nil => exact ⟨sound.advances_self, holds⟩
  | cons wanted rest inductionHypothesis =>
      obtain ⟨advances, holdsNext⟩ :=
        advances_addVariable now span reserved state wanted sound holds
      obtain ⟨advancesRest, holdsRest⟩ := inductionHypothesis _ advances.sound holdsNext
      exact ⟨advances.trans advancesRest, holdsRest⟩

/-- A sweep removes roots and adds roots. -/
theorem advances_sweep
    {scanner : VariableScanner}
    {registry : Registry}
    (sound : registry.Sound)
    (holds : scanner.HoldsRoots registry)
    (now : Time)
    (text : List Char)
    (span : Nat) :
    Advances registry (scanner.sweep now text span registry).2 ∧
      (scanner.sweep now text span registry).1.HoldsRoots
        (scanner.sweep now text span registry).2 := by
  have queried := sound.advances_query now { kind := some .var }
  have holdsQueried := holds.keeps sound queried.keeps
  let read := (registry.query now { kind := some .var }).2
  let stale := scanner.owned.filter fun item => !isCurrent read (desired text) item
  let current := scanner.owned.filter fun item => isCurrent read (desired text) item
  have removed := queried.sound.advances_removeAll (stale.map (·.id)) (by
    intro id listed
    obtain ⟨item, member, rfl⟩ := List.mem_map.mp listed
    exact holdsQueried item (List.mem_of_mem_filter member))
  have holdsCurrent : HoldsRoots { scanner with owned := current }
      (read.removeAll (stale.map (·.id))) := by
    intro item member
    exact (holdsQueried.keeps queried.sound removed.keeps) item (List.mem_of_mem_filter member)
  obtain ⟨added, holdsAdded⟩ := advances_foldl_addVariable now span
    (scanner.reserved (registry.query now { kind := some .var }).1) (desired text)
    ({ scanner with owned := current }, _) removed.sound holdsCurrent
  exact ⟨(queried.trans removed).trans added, holdsAdded⟩

theorem advances_onRefresh
    {scanner : VariableScanner}
    {registry : Registry}
    (sound : registry.Sound)
    (holds : scanner.HoldsRoots registry)
    (now : Time)
    (document : Option String)
    (interval : Nat) :
    Advances registry (scanner.onRefresh now document interval registry).2 ∧
      (scanner.onRefresh now document interval registry).1.HoldsRoots
        (scanner.onRefresh now document interval registry).2 := by
  unfold onRefresh
  split
  · exact ⟨sound.advances_self, holds⟩
  · have sameOwned : { scanner with lastScan := some now }.HoldsRoots registry := holds
    exact advances_sweep sound sameOwned now _ interval

end VariableScanner

/-! ## Workspaces -/

/-- The listener is a scanner whose variables are roots. -/
def Listener.HoldsRoots (registry : Registry) : Listener → Prop
  | documentScanner scanner => scanner.HoldsRoots registry
  | hook _ _ _ => False

theorem Listener.HoldsRoots.keeps
    {listener : Listener}
    {before after : Registry}
    (holds : listener.HoldsRoots before)
    (sound : before.Sound)
    (keeps : Keeps before after) :
    listener.HoldsRoots after := by
  cases listener with
  | documentScanner scanner => exact VariableScanner.HoldsRoots.keeps holds sound keeps
  | hook label adds subscribes => exact holds

namespace Workspace

theorem advances_call
    (workspace : Workspace)
    {listener : Listener}
    (sound : workspace.registry.Sound)
    (holds : listener.HoldsRoots workspace.registry) :
    Advances workspace.registry (workspace.call listener).2.registry ∧
      (workspace.call listener).1.HoldsRoots (workspace.call listener).2.registry ∧
      (workspace.call listener).2.listeners = workspace.listeners := by
  cases listener with
  | documentScanner scanner =>
      obtain ⟨advances, holdsAfter⟩ := VariableScanner.advances_onRefresh sound holds
        workspace.now workspace.document workspace.scanInterval
      exact ⟨advances, holdsAfter, rfl⟩
  | hook label adds subscribes => exact holds.elim

theorem advances_callAll
    (workspace : Workspace)
    (listeners : List Listener)
    (sound : workspace.registry.Sound)
    (hold : ∀ listener ∈ listeners, listener.HoldsRoots workspace.registry) :
    Advances workspace.registry (workspace.callAll listeners).2.registry ∧
      (∀ listener ∈ (workspace.callAll listeners).1,
        listener.HoldsRoots (workspace.callAll listeners).2.registry) ∧
      (workspace.callAll listeners).2.listeners = workspace.listeners := by
  induction listeners generalizing workspace with
  | nil => exact ⟨sound.advances_self, nofun, rfl⟩
  | cons listener rest inductionHypothesis =>
      obtain ⟨advances, holds, sameListeners⟩ :=
        workspace.advances_call sound (hold listener List.mem_cons_self)
      obtain ⟨advancesRest, holdRest, sameRest⟩ := inductionHypothesis
        (workspace.call listener).2 advances.sound (by
          intro other member
          exact (hold other (List.mem_cons_of_mem _ member)).keeps sound advances.keeps)
      refine ⟨advances.trans advancesRest, ?_, sameRest.trans sameListeners⟩
      intro other member
      rcases List.mem_cons.mp member with rfl | later
      · exact holds.keeps advances.sound advancesRest.keeps
      · exact holdRest other later

/-- The registry is sound, and all listeners are scanners whose variables are
roots. -/
structure Tidy (workspace : Workspace) : Prop where
  sound : workspace.registry.Sound
  listeners : ∀ listener ∈ workspace.listeners, listener.HoldsRoots workspace.registry

theorem Tidy.broadcast
    {workspace : Workspace}
    (tidy : workspace.Tidy) :
    Advances workspace.registry workspace.broadcast.registry ∧ workspace.broadcast.Tidy := by
  obtain ⟨advances, hold, noListeners⟩ :=
    ({ workspace with listeners := [] }).advances_callAll workspace.listeners tidy.sound
      tidy.listeners
  refine ⟨advances, advances.sound, ?_⟩
  intro listener member
  rcases List.mem_append.mp member with called | subscribed
  · exact hold listener called
  · rw [noListeners] at subscribed
    cases subscribed

theorem Tidy.query
    {workspace : Workspace}
    (tidy : workspace.Tidy)
    (query : Query)
    (refresh : Bool) :
    Advances workspace.registry (workspace.query query refresh).2.registry ∧
      (workspace.query query refresh).2.Tidy := by
  obtain ⟨called, calledAdvances, calledTidy, queriedEq⟩ :
      ∃ called : Workspace, Advances workspace.registry called.registry ∧ called.Tidy ∧
        (workspace.query query refresh).2 =
          { called with registry := (called.registry.query called.now query).2 } := by
    cases refresh with
    | false => exact ⟨workspace, tidy.sound.advances_self, tidy, rfl⟩
    | true =>
        obtain ⟨advances, tidyAfter⟩ := tidy.broadcast
        exact ⟨workspace.broadcast, advances, tidyAfter, rfl⟩
  rw [queriedEq]
  have queried := calledTidy.sound.advances_query called.now query
  refine ⟨calledAdvances.trans queried, queried.sound, ?_⟩
  intro listener member
  exact (calledTidy.listeners listener member).keeps calledTidy.sound queried.keeps

end Workspace

/-! ## Sites -/

namespace Site

/-- The workspace is tidy, and so are the other scanners. -/
structure Tidy (site : Site) : Prop where
  workspace : site.workspace.Tidy
  scanners : ∀ number, (site.scanners number).HoldsRoots site.workspace.registry

theorem tidy_empty : Tidy {} :=
  { workspace := ⟨sound_empty, nofun⟩
    scanners := fun _ => nofun }

theorem Tidy.withRegistry
    {site : Site}
    (tidy : site.Tidy)
    {registry : Registry}
    (advances : Advances site.workspace.registry registry) :
    (site.withRegistry registry).Tidy :=
  { workspace :=
      { sound := advances.sound
        listeners := fun listener member =>
          (tidy.workspace.listeners listener member).keeps tidy.workspace.sound
            advances.keeps }
    scanners := fun number =>
      (tidy.scanners number).keeps tidy.workspace.sound advances.keeps }

/-- One activity keeps a site tidy. -/
theorem Tidy.after
    {site : Site}
    (tidy : site.Tidy)
    (activity : Activity)
    (allowed : site.Allows activity) :
    (site.after activity).Tidy := by
  have sound := tidy.workspace.sound
  cases activity with
  | setClock now => exact ⟨⟨sound, tidy.workspace.listeners⟩, tidy.scanners⟩
  | edit document => exact ⟨⟨sound, tidy.workspace.listeners⟩, tidy.scanners⟩
  | setInterval interval => exact ⟨⟨sound, tidy.workspace.listeners⟩, tidy.scanners⟩
  | subscribe =>
      refine ⟨⟨sound, ?_⟩, tidy.scanners⟩
      intro listener member
      rcases List.mem_append.mp member with known | new
      · exact tidy.workspace.listeners listener known
      · rw [List.mem_singleton.mp new]
        exact nofun
  | registerBuiltins =>
      unfold Site.after
      cases registered : Builtin.register site.workspace.registry site.workspace.now with
      | error failure => exact tidy
      | ok result => exact tidy.withRegistry (Builtin.advances_register sound registered)
  | importLibrary library => exact tidy.withRegistry (sound.advances_importLibrary _ library)
  | load files => exact tidy.withRegistry (Tld.advances_load sound _ files)
  | remove id =>
      cases found : site.workspace.registry.entry? id with
      | none => simpa only [Site.after, Registry.remove, found] using tidy
      | some entry =>
          simp only [Site.after, Registry.remove, found]
          apply tidy.withRegistry
          apply sound.advances_removeAll
          intro other listed
          rw [List.mem_singleton.mp listed]
          obtain ⟨library, isLibrary⟩ : ∃ library, entry.element = .library library := by
            have ofKind := allowed entry found
            cases element : entry.element <;> simp_all [Descriptor.kind]
          exact sound.isRoot_of_library (mem_of_entry?_eq_some found) isLibrary
  | get id =>
      exact tidy.withRegistry ⟨sound.get _ id, sound.consistent.keeps_get _ id⟩
  | query query refresh =>
      obtain ⟨advances, tidyAfter⟩ := tidy.workspace.query query refresh
      exact
        { workspace := tidyAfter
          scanners := fun number => (tidy.scanners number).keeps sound advances.keeps }
  | sweep scanner text span =>
      obtain ⟨advances, holds⟩ := VariableScanner.advances_sweep sound (tidy.scanners scanner)
        site.workspace.now text span
      refine ⟨(tidy.withRegistry advances).workspace, ?_⟩
      intro number
      by_cases same : number = scanner
      · simp only [Site.after, same, if_true]
        exact holds
      · simp only [Site.after, same, if_false]
        exact (tidy.withRegistry advances).scanners number

/-- Every state of a run is tidy. -/
theorem Tidy.run
    {site : Site}
    (tidy : site.Tidy)
    (activities : List Activity)
    (allowed : site.AllowsAll activities) :
    (site.run activities).Tidy := by
  induction activities generalizing site with
  | nil => exact tidy
  | cons activity rest inductionHypothesis =>
      exact inductionHypothesis (tidy.after activity allowed.1) allowed.2

/-- In every state of every run from the empty registry in which only libraries
are removed on their own, entries stand in the order of their identities, no two
libraries share a uri, and the functions and tags are, in order, those of the
libraries. -/
theorem run_keeps_libraries_in_step
    (activities : List Activity)
    (allowed : AllowsAll {} activities) :
    let registry := (run {} activities).workspace.registry
    registry.entries.Pairwise (fun left right => left.1.value < right.1.value) ∧
      (registry.libraries.map (·.uri)).Nodup ∧
      registry.functions = registry.libraries.flatMap (·.functions) ∧
      registry.tags = registry.libraries.flatMap (·.tags) := by
  intro registry
  have sound : registry.Sound := (tidy_empty.run activities allowed).workspace.sound
  exact ⟨sound.consistent.increasing, sound.uris, sound.views⟩

/-- A library with one tag. -/
def sampleLibrary (uri : String) : TagLibrary :=
  { name := ⟨"lib", by decide⟩
    uri
    fullName := ""
    description := ""
    functions := []
    tags :=
      [{ name := ⟨"out", by decide⟩
         uri
         className := ""
         description := ""
         content := "JSP"
         attributes := [] }] }

/-- A library is registered twice, another one once; a scanner sweeps a text, and
the other library is removed. -/
def sampleActivities : List Activity :=
  [.importLibrary (sampleLibrary "core"), .importLibrary (sampleLibrary "core"),
    .importLibrary (sampleLibrary "format"), .sweep 0 "<c:set var=\"x\"/>".toList 5,
    .remove ⟨4⟩]

theorem sampleActivities_keep_libraries_in_step :
    let registry := (run {} sampleActivities).workspace.registry
    AllowsAll {} sampleActivities ∧
      registry.entries.Pairwise (fun left right => left.1.value < right.1.value) ∧
      (registry.libraries.map (·.uri)).Nodup ∧
      registry.functions = registry.libraries.flatMap (·.functions) ∧
      registry.tags = registry.libraries.flatMap (·.tags) := by
  have isLibrary : ((run {} (sampleActivities.take 4)).workspace.registry.entry? ⟨4⟩).map
      (·.element.kind) = some .library := by
    decide +kernel
  have allowed : AllowsAll {} sampleActivities := by
    refine ⟨trivial, trivial, trivial, trivial, ?_, trivial⟩
    intro entry found
    change (run {} (sampleActivities.take 4)).workspace.registry.entry? ⟨4⟩ = some entry at found
    rw [found] at isLibrary
    exact Option.some.inj isLibrary
  exact ⟨allowed, run_keeps_libraries_in_step sampleActivities allowed⟩

end Site
end JspCompletion
