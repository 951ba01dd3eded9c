import JspCompletion.Proofs.Tld.Reload
import JspCompletion.Proofs.Variables.Alignment
import JspCompletion.Proofs.Workspace.Libraries
import Mathlib.Data.List.Pairwise

/-!
# A scanner among built-in descriptors and libraries

The registry of a session is shared by three parties.  The built-in descriptors
were there first, libraries come and go with their members, and all else is what
the scanner registered.  Only the scanner's entries have a life, and only members
of libraries belong to something.

Sweeps, queries and loading keep it so, and each keeps to its own: sweeps and
queries change nothing but entries of the scanner, and loading changes nothing
that was there first.
-/

namespace JspCompletion

open Registry Markup VariableScanner

namespace Registry

/-! ## Owners in a sound registry -/

namespace Sound

variable {registry : Registry} {id : EntryId} {entry : Entry}

theorem owner_of_loose
    (sound : registry.Sound)
    (found : registry.entry? id = some entry)
    (isLoose : entry.element.IsLoose) :
    entry.owner = none := by
  have held : (⟨id, entry.element, entry.owner⟩ : Holding) ∈ registry.holdings :=
    List.mem_map.mpr ⟨_, mem_of_entry?_eq_some found, rfl⟩
  exact sound.arranged.owner_of_loose held isLoose

/-- What is not loose is a library, or belongs to one. -/
theorem exists_uri
    (sound : registry.Sound)
    (found : registry.entry? id = some entry)
    (notLoose : ¬entry.element.IsLoose) :
    ∃ uri, registry.uriOf? (entry.owner.getD id) = some uri := by
  have held : (⟨id, entry.element, entry.owner⟩ : Holding) ∈ registry.holdings :=
    List.mem_map.mpr ⟨_, mem_of_entry?_eq_some found, rfl⟩
  obtain ⟨library, libraryHeld⟩ := sound.arranged.exists_library held notLoose
  obtain ⟨item, member, itemEq⟩ := List.mem_map.mp libraryHeld
  obtain ⟨sameId, isLibrary, -⟩ := Holding.mk.inj itemEq
  have itemFound := (sound.consistent.entry?_eq_some_iff item.1 item.2).mpr member
  rw [← sameId]
  exact ⟨library.uri, (uriOf?_eq_some_iff ..).mpr ⟨item.2, library, itemFound, isLibrary, rfl⟩⟩

theorem eq_of_uriOf?
    (sound : registry.Sound)
    {left right : EntryId}
    {uri : String}
    (leftUri : registry.uriOf? left = some uri)
    (rightUri : registry.uriOf? right = some uri) :
    left = right := by
  have listed {id : EntryId} (ofUri : registry.uriOf? id = some uri) :
      id ∈ registry.ofKind .library := by
    obtain ⟨entry, library, found, isLibrary, -⟩ := (uriOf?_eq_some_iff ..).mp ofUri
    refine (sound.consistent.mem_ofKind_iff .library id).mpr ⟨entry, found, ?_⟩
    rw [isLibrary]
    rfl
  have apart := sound.uris
  rw [← sound.consistent.filterMap_uriOf?_ofKind, List.Nodup, List.pairwise_filterMap] at apart
  have symmetric : Std.Symm fun left right : EntryId =>
      ∀ uri, registry.uriOf? left = some uri →
        ∀ other, registry.uriOf? right = some other → uri ≠ other :=
    ⟨fun _ _ apart uri found other otherFound same =>
      apart other otherFound uri found same.symm⟩
  by_contra differs
  exact apart.forall (listed leftUri) (listed rightUri) differs uri leftUri uri rightUri rfl

/-- A sound registry in which libraries and their members have no life is
stocked. -/
theorem stocked
    (sound : registry.Sound)
    (static : ∀ id entry, registry.entry? id = some entry → ¬entry.element.IsLoose →
      entry.lifetime = none) :
    registry.Stocked := by
  let imported := (registry.entries.filter (¬·.2.element.IsLoose)).map (·.1)
  have mem_imported (id : EntryId) : id ∈ imported ↔
      ∃ entry, registry.entry? id = some entry ∧ ¬entry.element.IsLoose := by
    simp [imported, sound.consistent.entry?_eq_some_iff]
  have notLoose {id : EntryId} {entry : Entry} (listed : id ∈ imported)
      (found : registry.entry? id = some entry) : ¬entry.element.IsLoose := by
    obtain ⟨other, otherFound, otherNotLoose⟩ := (mem_imported id).mp listed
    rw [found, Option.some.injEq] at otherFound
    rwa [otherFound]
  refine ⟨sound.consistent, imported, ?_, fun id entry found loose =>
    (mem_imported id).mpr ⟨entry, found, loose⟩⟩
  exact
    { used := by
        intro id listed
        obtain ⟨entry, found, -⟩ := (mem_imported id).mp listed
        exact sound.consistent.below _ (mem_of_entry?_eq_some found)
      static := fun id listed entry found => static id entry found (notLoose listed found)
      unowned := by
        intro id _ entry library found isLibrary
        have isRoot := sound.isRoot_of_library (mem_of_entry?_eq_some found) isLibrary
        exact isRoot.unowned _ (mem_of_entry?_eq_some found) rfl
      placed := by
        intro id listed entry found
        obtain ⟨uri, ofUri⟩ := sound.exists_uri found (notLoose listed found)
        refine ⟨(mem_imported _).mpr ?_, uri, ofUri⟩
        obtain ⟨holder, library, holderFound, isLibrary, -⟩ := (uriOf?_eq_some_iff ..).mp ofUri
        refine ⟨holder, holderFound, ?_⟩
        rw [isLibrary]
        exact fun loose => loose
      uris := fun left _ right _ uri leftUri rightUri => sound.eq_of_uriOf? leftUri rightUri }

end Sound

/-- A registry of static entries that have nothing to do with libraries. -/
structure IsFoundation (first : Registry) : Prop where
  sound : first.Sound
  loose : ∀ id entry, first.entry? id = some entry → entry.element.IsLoose
  static : ∀ id entry, first.entry? id = some entry → entry.lifetime = none

end Registry

namespace Work

/-! ## Who holds what -/

/-- Everything in the registry was there first, is the scanner's, or came with
libraries and has no life. -/
structure Shared (first : Registry) (work : Work) : Prop where
  faithful : work.Faithful first.nextId
  sound : work.registry.Sound
  made_ge : ∀ id ∈ work.made, first.nextId ≤ id.value
  /-- What was there first is as it was. -/
  kept : ∀ id, id.value < first.nextId → work.registry.entry? id = first.entry? id
  others : ∀ id entry, first.nextId ≤ id.value → id ∉ work.made →
    work.registry.entry? id = some entry → ¬entry.element.IsLoose ∧ entry.lifetime = none

/-- The scanner may have registered, changed or removed entries of its own; all
else is as it was. -/
structure KeepsToItself (before after : Work) : Prop where
  nextId_le : before.registry.nextId ≤ after.registry.nextId
  made_subset : before.made ⊆ after.made
  made_new : ∀ id ∈ after.made, id ∈ before.made ∨ before.registry.nextId ≤ id.value
  unchanged : ∀ id ∉ after.made, after.registry.entry? id = before.registry.entry? id

theorem KeepsToItself.refl (work : Work) : KeepsToItself work work :=
  { nextId_le := Nat.le_refl _
    made_subset := List.Subset.refl _
    made_new := fun _ made => Or.inl made
    unchanged := fun _ _ => rfl }

theorem KeepsToItself.trans
    {before between after : Work}
    (first : KeepsToItself before between)
    (second : KeepsToItself between after) :
    KeepsToItself before after :=
  { nextId_le := Nat.le_trans first.nextId_le second.nextId_le
    made_subset := List.Subset.trans first.made_subset second.made_subset
    made_new := by
      intro id made
      rcases second.made_new id made with earlier | isNew
      · exact first.made_new id earlier
      · exact Or.inr (Nat.le_trans first.nextId_le isNew)
    unchanged := by
      intro id notMade
      rw [second.unchanged id notMade]
      exact first.unchanged id fun earlier => notMade (second.made_subset earlier) }

/-- Where everything was there first, is a variable of the scanner, or came with
libraries, the scanner and the others keep apart. -/
theorem apart_of_parties
    {first : Registry}
    (foundation : first.IsFoundation)
    {work : Work}
    (sound : work.registry.Sound)
    (kept : ∀ id, id.value < first.nextId → work.registry.entry? id = first.entry? id)
    (others : ∀ id entry, first.nextId ≤ id.value → id ∉ work.made →
      work.registry.entry? id = some entry → ¬entry.element.IsLoose)
    (areVariables : ∀ id ∈ work.made, ∀ entry, work.registry.entry? id = some entry →
      entry.element.kind = .var) :
    work.Apart first.nextId := by
  have early : ∀ item ∈ work.registry.entries, item.1 ∉ work.made →
      item.2.element.kind = .var → item.1.value < first.nextId := by
    intro item member notMade ofKind
    by_contra late
    refine others item.1 item.2 (Nat.le_of_not_lt late) notMade
      ((sound.consistent.entry?_eq_some_iff item.1 item.2).mpr member) ?_
    cases element : item.2.element with
    | var var => trivial
    | _ =>
        rw [element] at ofKind
        cases ofKind
  refine ⟨?_, early, ?_⟩
  · intro item member notMade ofKind
    have found := (sound.consistent.entry?_eq_some_iff item.1 item.2).mpr member
    rw [kept item.1 (early item member notMade ofKind)] at found
    exact foundation.static item.1 item.2 found
  · intro item member owner made _ belongs
    -- Only members of libraries belong to something, and a library is no variable.
    have found := (sound.consistent.entry?_eq_some_iff item.1 item.2).mpr member
    have notLoose : ¬item.2.element.IsLoose := by
      intro isLoose
      rw [sound.owner_of_loose found isLoose] at belongs
      cases belongs
    obtain ⟨uri, ofUri⟩ := sound.exists_uri found notLoose
    rw [belongs, Option.getD_some] at ofUri
    obtain ⟨holder, library, holderFound, isLibrary, -⟩ := (uriOf?_eq_some_iff ..).mp ofUri
    have ofKind := areVariables owner made holder holderFound
    rw [isLibrary] at ofKind
    cases ofKind

namespace Shared

variable {first : Registry} {work : Work}

/-- An entry of the scanner is a variable that it has noted. -/
theorem exists_owned
    (shared : work.Shared first)
    {id : EntryId}
    {entry : Entry}
    (made : id ∈ work.made)
    (found : work.registry.entry? id = some entry) :
    entry.element.kind = .var ∧ ∃ item ∈ work.scanner.owned, item.id = id := by
  obtain ⟨item, owned, sameId, isShown⟩ := shared.faithful.exists_shown made found
  obtain ⟨var, elementEq, -⟩ := isShown.isVariable
  rw [elementEq]
  exact ⟨rfl, item, owned, sameId⟩

theorem apart
    (shared : work.Shared first)
    (foundation : first.IsFoundation) :
    work.Apart first.nextId := by
  apply apart_of_parties foundation shared.sound shared.kept
  · intro id entry late notMade found
    exact (shared.others id entry late notMade found).1
  · intro id made entry found
    exact (shared.exists_owned made found).1

/-- Only entries of the scanner have a life. -/
theorem static
    (shared : work.Shared first)
    (foundation : first.IsFoundation)
    {id : EntryId}
    {entry : Entry}
    (notMade : id ∉ work.made)
    (found : work.registry.entry? id = some entry) :
    entry.lifetime = none := by
  rcases Nat.lt_or_ge id.value first.nextId with early | late
  · rw [shared.kept id early] at found
    exact foundation.static id entry found
  · exact (shared.others id entry late notMade found).2

theorem withLastScan
    (shared : work.Shared first)
    (time : Time) :
    Shared first { work with scanner := { work.scanner with lastScan := some time } } :=
  { faithful := shared.faithful.withLastScan time
    sound := shared.sound
    made_ge := shared.made_ge
    kept := shared.kept
    others := shared.others }

/-- Others may do with the registry what leaves it sound, keeps what was there
first, and adds nothing but library entries without a life. -/
theorem withRegistry
    (shared : work.Shared first)
    (foundation : first.IsFoundation)
    {after : Registry}
    (advances : Advances work.registry after)
    (kept : ∀ id, id.value < first.nextId → after.entry? id = first.entry? id)
    (others : ∀ id entry, first.nextId ≤ id.value → id ∉ work.made →
      after.entry? id = some entry → ¬entry.element.IsLoose ∧ entry.lifetime = none) :
    Shared first { work with registry := after } := by
  have areVariables : ∀ id ∈ work.made, ∀ entry, after.entry? id = some entry →
      entry.element.kind = .var := by
    intro id made entry found
    obtain ⟨old, oldMember, -, sameIfSteady⟩ := advances.keeps.known _
      (mem_of_entry?_eq_some found) (shared.faithful.made_lt id made)
    have sameElement : entry.timeless.element = old.timeless.element :=
      congrArg Entry.element (sameIfSteady (shared.sound.steady _ oldMember))
    have oldFound := (shared.sound.consistent.entry?_eq_some_iff id old).mpr oldMember
    change entry.element = old.element at sameElement
    rw [sameElement]
    exact (shared.exists_owned made oldFound).1
  have apart : Apart first.nextId { work with registry := after } := by
    apply apart_of_parties foundation advances.sound kept _ areVariables
    intro id entry late notMade found
    exact (others id entry late notMade found).1
  exact
    { faithful := shared.faithful.withRegistry advances.sound.consistent advances.keeps apart
      sound := advances.sound
      made_ge := shared.made_ge
      kept
      others }

/-! ## Sweeps and queries -/

/-- A sweep registers and removes variables of the scanner. -/
theorem sweep
    (shared : work.Shared first)
    (foundation : first.IsFoundation)
    (now : Time)
    (text : List Char)
    (span : Nat) :
    (work.sweep now text span).Shared first ∧ work.KeepsToItself (work.sweep now text span) := by
  have apart := shared.apart foundation
  have keepsToItself : work.KeepsToItself (work.sweep now text span) :=
    { nextId_le := by
        have filled := (shared.faithful.filled_sweep apart now text span).1
        rw [← shared.faithful.nextId_cleared apart.static now text]
        exact filled.nextId_le
      made_subset := fun id made => (mem_made_sweep ..).mpr (Or.inl made)
      made_new := by
        intro id made
        rcases (mem_made_sweep ..).mp made with old | isNew
        · exact Or.inl old
        · exact Or.inr isNew.2
      unchanged := fun id notMade =>
        shared.faithful.entry?_sweep_of_not_made apart now text span notMade }
  have made_ge : ∀ id ∈ (work.sweep now text span).made, first.nextId ≤ id.value := by
    intro id made
    rcases keepsToItself.made_new id made with old | isNew
    · exact shared.made_ge id old
    · exact Nat.le_trans shared.faithful.start_le isNew
  have holdsRoots : work.scanner.HoldsRoots work.registry := by
    intro item owned
    have made := shared.faithful.owned_made item owned
    refine ⟨shared.faithful.made_lt _ made, ?_⟩
    rintro other member sameId
    have found := (shared.sound.consistent.entry?_eq_some_iff other.1 other.2).mpr member
    rw [sameId] at found
    refine shared.sound.owner_of_loose found ?_
    obtain ⟨_, -, -, isShown⟩ := shared.faithful.exists_shown made found
    obtain ⟨var, elementEq, -⟩ := isShown.isVariable
    rw [elementEq]
    trivial
  refine ⟨?_, keepsToItself⟩
  exact
    { faithful := shared.faithful.sweep apart now text span
      sound := (advances_sweep shared.sound holdsRoots now text span).1.sound
      made_ge
      kept := by
        intro id early
        rw [keepsToItself.unchanged id fun made =>
          absurd (made_ge id made) (Nat.not_le_of_lt early)]
        exact shared.kept id early
      others := by
        intro id entry late notMade found
        rw [keepsToItself.unchanged id notMade] at found
        exact shared.others id entry late
          (fun made => notMade (keepsToItself.made_subset made)) found }

/-- A query starts lives of the scanner's entries again, and no others. -/
theorem query
    (shared : work.Shared first)
    (foundation : first.IsFoundation)
    (now : Time)
    (query : Query) :
    Shared first { work with registry := (work.registry.query now query).2 } ∧
      work.KeepsToItself { work with registry := (work.registry.query now query).2 } := by
  obtain ⟨-, refreshed⟩ := shared.sound.consistent.query_of_steady now query
    fun item member _ => shared.sound.steady item member
  have unchanged : ∀ id ∉ work.made,
      Registry.entry? (work.registry.query now query).2 id = work.registry.entry? id := by
    intro id notMade
    apply refreshed.untouched
    intro _ entry found
    exact shared.static foundation notMade found
  have notMade {id : EntryId} (early : id.value < first.nextId) : id ∉ work.made :=
    fun made => absurd (shared.made_ge id made) (Nat.not_le_of_lt early)
  refine ⟨?_, ?_⟩
  · apply shared.withRegistry foundation (shared.sound.advances_query now query)
    · intro id early
      rw [unchanged id (notMade early)]
      exact shared.kept id early
    · intro id entry late notMade found
      rw [unchanged id notMade] at found
      exact shared.others id entry late notMade found
  · exact
      { nextId_le := Nat.le_of_eq refreshed.nextId.symm
        made_subset := List.Subset.refl _
        made_new := fun _ made => Or.inl made
        unchanged }

/-! ## Loading -/

/-- Libraries and their members have no life, since the scanner makes none. -/
theorem stocked
    (shared : work.Shared first)
    (foundation : first.IsFoundation) :
    work.registry.Stocked := by
  apply shared.sound.stocked
  intro id entry found notLoose
  refine shared.static foundation ?_ found
  intro made
  obtain ⟨_, -, -, isShown⟩ := shared.faithful.exists_shown made found
  obtain ⟨var, elementEq, -⟩ := isShown.isVariable
  rw [elementEq] at notLoose
  exact notLoose trivial

/-- Loading touches library entries only. -/
theorem load
    (shared : work.Shared first)
    (foundation : first.IsFoundation)
    (now : Time)
    (files : List Tld.ParsedFile) :
    Shared first { work with registry := (Tld.load work.registry now files).2 } := by
  obtain ⟨-, -, spares⟩ := Tld.load_of_stocked (shared.stocked foundation) now files
  apply shared.withRegistry foundation (Tld.advances_load shared.sound now files)
  · intro id early
    have known : id.value < work.registry.nextId :=
      Nat.lt_of_lt_of_le early shared.faithful.start_le
    rw [← shared.kept id early]
    cases found : work.registry.entry? id with
    | none =>
        rw [Option.eq_none_iff_forall_ne_some]
        intro entry later
        rw [spares.known id entry known later] at found
        cases found
    | some entry =>
        apply spares.spared id entry found
        have isLoose : entry.element.IsLoose := by
          rw [shared.kept id early] at found
          exact foundation.loose id entry found
        rintro (⟨otherFound, isLibrary⟩ | ⟨unused, -⟩ | ⟨otherFound, belongs, -⟩)
        · rw [found, Option.some.injEq] at otherFound
          rw [otherFound, isLibrary] at isLoose
          exact isLoose
        · exact absurd known (Nat.not_lt_of_le unused)
        · rw [found, Option.some.injEq] at otherFound
          rw [← otherFound, shared.sound.owner_of_loose found isLoose] at belongs
          cases belongs
  · intro id entry late notMade found
    rcases Nat.lt_or_ge id.value work.registry.nextId with known | isNew
    · exact shared.others id entry late notMade (spares.known id entry known found)
    · exact spares.new id entry isNew found

end Shared
end Work
end JspCompletion
