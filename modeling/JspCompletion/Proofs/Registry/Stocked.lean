import JspCompletion.Proofs.Registry.Imported

/-!
# Registries stocked by imports

Where every library, function and tag came from an import, each of them has the
uri of the library that it is or belongs to.  Seen as descriptors with their
uris, the registry behaves like a shelf: removing a library takes everything
with its uri out, and an import does so and then puts the new library with its
members at the end.  No other entry plays a part.

Other entries are touched only if they belong to a library, directly or through
others.  Nothing keeps an entry from belonging to an identity that is yet to be
given out, and may come to be a library's; such entries are not safe either.
-/

namespace JspCompletion

instance : DecidablePred Descriptor.IsLoose
  | .library _ | .function _ | .tag _ => isFalse id
  | .attr _ | .var _ | .keyword _ | .scope _ => isTrue trivial

theorem Descriptor.exists_library_of_kind
    {element : Descriptor}
    (isLibrary : element.kind = .library) :
    ∃ library, element = .library library := by
  cases element with
  | library library => exact ⟨library, rfl⟩
  | _ => cases isLibrary

/-- A library and its members, in the order of their registration. -/
def TagLibrary.descriptors (library : TagLibrary) : List Descriptor :=
  .library library :: library.members

namespace Registry

/-- The libraries, functions and tags, in order of insertion. -/
def libraryDescriptors (registry : Registry) : List Descriptor :=
  (registry.entries.map (·.2.element)).filter (¬·.IsLoose)

theorem Consistent.filterMap_uriOf?_ofKind
    {registry : Registry}
    (consistent : registry.Consistent) :
    (registry.ofKind .library).filterMap registry.uriOf? = registry.libraries.map (·.uri) := by
  rw [consistent.ofKind_eq_filter, libraries, List.map_filterMap, List.filterMap_map,
    List.filterMap_filter]
  apply List.filterMap_congr
  intro item member
  have found := (consistent.entry?_eq_some_iff item.1 item.2).mpr member
  cases element : item.2.element <;>
    simp [uriOf?, found, element, Descriptor.kind, Descriptor.library?]

/-- Every library, function and tag came from an import. -/
structure Stocked (registry : Registry) : Prop where
  consistent : registry.Consistent
  covered : ∃ imported, registry.Intact imported ∧
    ∀ id entry, registry.entry? id = some entry → ¬entry.element.IsLoose → id ∈ imported

namespace Stocked

variable {registry : Registry}

theorem isExpired_eq_false
    (stocked : registry.Stocked)
    (now : Time)
    {id : EntryId}
    {entry : Entry}
    (found : registry.entry? id = some entry)
    (notLoose : ¬entry.element.IsLoose) :
    isExpired entry now = false := by
  obtain ⟨imported, intact, covers⟩ := stocked.covered
  have static := intact.static id (covers id entry found notLoose) entry found
  simp [isExpired, static]

/-- What is not loose is a library or belongs to one. -/
theorem exists_uri
    (stocked : registry.Stocked)
    {id : EntryId}
    {entry : Entry}
    (found : registry.entry? id = some entry)
    (notLoose : ¬entry.element.IsLoose) :
    ∃ uri, registry.uriOf? (entry.owner.getD id) = some uri := by
  obtain ⟨imported, intact, covers⟩ := stocked.covered
  exact (intact.placed id (covers id entry found notLoose) entry found).2

theorem owner_eq_none
    (stocked : registry.Stocked)
    {id : EntryId}
    {entry : Entry}
    {library : TagLibrary}
    (found : registry.entry? id = some entry)
    (isLibrary : entry.element = .library library) :
    entry.owner = none := by
  obtain ⟨imported, intact, covers⟩ := stocked.covered
  have notLoose : ¬entry.element.IsLoose := by
    rw [isLibrary]
    exact fun loose => loose
  exact intact.unowned id (covers id entry found notLoose) entry library found isLibrary

/-- A uri tells the library. -/
theorem eq_of_uriOf?
    (stocked : registry.Stocked)
    {left right : EntryId}
    {uri : String}
    (leftUri : registry.uriOf? left = some uri)
    (rightUri : registry.uriOf? right = some uri) :
    left = right := by
  obtain ⟨imported, intact, covers⟩ := stocked.covered
  have listed {id : EntryId} (ofUri : registry.uriOf? id = some uri) : id ∈ imported := by
    obtain ⟨entry, library, found, isLibrary, -⟩ := (uriOf?_eq_some_iff ..).mp ofUri
    refine covers id entry found ?_
    rw [isLibrary]
    exact fun loose => loose
  exact intact.uris left (listed leftUri) right (listed rightUri) uri leftUri rightUri

theorem mem_singleton_iff
    (stocked : registry.Stocked)
    {id : EntryId}
    {uri : String}
    (ofUri : registry.uriOf? id = some uri)
    (other : EntryId) :
    other ∈ [id] ↔ registry.uriOf? other = some uri := by
  rw [List.mem_singleton]
  constructor
  · rintro rfl
    exact ofUri
  · intro sameUri
    exact stocked.eq_of_uriOf? sameUri ofUri

/-- With some libraries goes, of what is not loose, what they are and what
belongs to them directly. -/
theorem falls_iff
    (stocked : registry.Stocked)
    {roots : List EntryId}
    (areLibraries : ∀ root ∈ roots, ∃ uri, registry.uriOf? root = some uri)
    {id : EntryId}
    {entry : Entry}
    (found : registry.entry? id = some entry)
    (notLoose : ¬entry.element.IsLoose) :
    registry.Falls roots id ↔ entry.owner.getD id ∈ roots := by
  constructor
  · intro falls
    obtain ⟨imported, intact, covers⟩ := stocked.covered
    rcases intact.listed_of_falls stocked.consistent (covers id entry found notLoose) found falls
      with itself | withLibrary
    · obtain ⟨uri, ofUri⟩ := areLibraries id itself
      obtain ⟨other, library, otherFound, isLibrary, -⟩ := (uriOf?_eq_some_iff ..).mp ofUri
      rw [found, Option.some.injEq] at otherFound
      rw [stocked.owner_eq_none found (otherFound ▸ isLibrary)]
      exact itself
    · exact withLibrary
  · intro isRoot
    obtain ⟨uri, ofUri⟩ := areLibraries _ isRoot
    obtain ⟨holder, -, holderFound, -⟩ := (uriOf?_eq_some_iff ..).mp ofUri
    have rootFalls : registry.Falls roots (entry.owner.getD id) :=
      Falls.root isRoot ((mem_ids_iff_exists registry _).mpr ⟨holder, holderFound⟩)
    cases belongs : entry.owner with
    | none => rwa [belongs] at rootFalls
    | some owner =>
        rw [belongs] at rootFalls
        exact @Falls.owned registry roots (id, entry) owner (mem_of_entry?_eq_some found) belongs
          rootFalls

theorem removeAll
    (stocked : registry.Stocked)
    (roots : List EntryId) :
    (registry.removeAll roots).Stocked := by
  obtain ⟨imported, intact, covers⟩ := stocked.covered
  refine ⟨(stocked.consistent.evolves_removeAll roots).consistent, imported,
    intact.removeAll stocked.consistent roots, ?_⟩
  intro id entry found
  exact covers id entry (stocked.consistent.entry?_of_entry?_removeAll found)

theorem addGroup
    (stocked : registry.Stocked)
    (now : Time)
    (library : TagLibrary)
    (newUri : ∀ id, registry.uriOf? id ≠ some library.uri) :
    (registry.addGroup now library).Stocked := by
  obtain ⟨imported, intact, covers⟩ := stocked.covered
  refine ⟨(stocked.consistent.evolves_addGroup now library).consistent, _,
    intact.addGroup stocked.consistent now library newUri, ?_⟩
  intro id entry found notLoose
  rw [List.mem_append, List.mem_filter, decide_eq_true_eq]
  rcases Nat.lt_or_ge id.value registry.nextId with known | isNew
  · rw [stocked.consistent.entry?_addGroup now library known] at found
    exact Or.inl (covers id entry found notLoose)
  · exact Or.inr ⟨(mem_ids_iff_exists _ id).mpr ⟨entry, found⟩, isNew⟩

/-- No library has a life. -/
theorem allLive
    (stocked : registry.Stocked)
    (now : Time) :
    registry.AllLive .library now := by
  intro item member isLibrary
  refine stocked.isExpired_eq_false now
    ((stocked.consistent.entry?_eq_some_iff item.1 item.2).mpr member) ?_
  obtain ⟨library, elementEq⟩ := Descriptor.exists_library_of_kind isLibrary
  rw [elementEq]
  exact fun loose => loose

/-- The libraries are found, and nothing changes. -/
theorem query_libraries
    (stocked : registry.Stocked)
    (now : Time) :
    (registry.query now { kind := some .library }).1.map (·.1) = registry.ofKind .library ∧
      (registry.query now { kind := some .library }).2 = registry := by
  rw [stocked.consistent.query_of_allLive (stocked.allLive now) [],
    stocked.consistent.ofKind_eq_filter, List.map_map]
  simp [Function.comp_def]

/-- To make room is to remove the libraries with the uri, since none changes when
it is read. -/
theorem exists_makeRoom_eq
    (stocked : registry.Stocked)
    (now : Time)
    (uri : String) :
    ∃ roots, registry.makeRoom now uri = registry.removeAll roots ∧
      ∀ id, id ∈ roots ↔ registry.uriOf? id = some uri := by
  let rule : FilterRule := { property := "uri", values := [uri] }
  have queried := stocked.consistent.query_of_allLive (stocked.allLive now) [rule]
  have selectsEq (element : Descriptor) :
      Query.selects { kind := some .library, rules := [rule] } element =
        (element.kind == .library && [rule].all (·.accepts element)) := by
    rw [Query.selects, Option.all_some, BEq.comm]
  refine ⟨_, by rw [makeRoom, byUri, queried], ?_⟩
  intro id
  simp only [List.map_map, List.mem_map, List.mem_filter, Function.comp_apply]
  rw [uriOf?_eq_some_iff]
  constructor
  · rintro ⟨item, ⟨member, selected⟩, rfl⟩
    rw [← selectsEq] at selected
    obtain ⟨library, isLibrary, same⟩ := (selects_sameUri_iff uri _).mp selected
    exact ⟨item.2, library, (stocked.consistent.entry?_eq_some_iff item.1 item.2).mpr member,
      isLibrary, same⟩
  · rintro ⟨entry, library, found, isLibrary, same⟩
    refine ⟨(id, entry), ⟨mem_of_entry?_eq_some found, ?_⟩, rfl⟩
    rw [← selectsEq]
    exact (selects_sameUri_iff uri entry.element).mpr ⟨library, isLibrary, same⟩

theorem importLibrary
    (stocked : registry.Stocked)
    (now : Time)
    (library : TagLibrary) :
    (registry.importLibrary now library).2.Stocked := by
  obtain ⟨roots, roomEq, -⟩ := stocked.exists_makeRoom_eq now library.uri
  rw [importLibrary_eq]
  refine Stocked.addGroup ?_ now library (stocked.consistent.uriOf?_makeRoom now library.uri)
  rw [roomEq]
  exact stocked.removeAll roots

end Stocked

/-! ## The shelf -/

/-- An entry of a library with the uri of that library. -/
def shelved? (registry : Registry) (item : EntryId × Entry) : Option (String × Descriptor) :=
  if item.2.element.IsLoose then none
  else (registry.uriOf? (item.2.owner.getD item.1)).map (·, item.2.element)

/-- The libraries, functions and tags, each with the uri of its library. -/
def shelf (registry : Registry) : List (String × Descriptor) :=
  registry.entries.filterMap registry.shelved?

/-- On the shelf are only uris of libraries. -/
theorem uri_mem_libraries
    {registry : Registry}
    {item : String × Descriptor}
    (member : item ∈ registry.shelf) :
    item.1 ∈ registry.libraries.map (·.uri) := by
  obtain ⟨entry, -, shelved⟩ := List.mem_filterMap.mp member
  unfold shelved? at shelved
  split at shelved
  · cases shelved
  obtain ⟨uri, ofUri, rfl⟩ := Option.map_eq_some_iff.mp shelved
  obtain ⟨holder, library, found, isLibrary, rfl⟩ := (uriOf?_eq_some_iff ..).mp ofUri
  refine List.mem_map_of_mem (List.mem_filterMap.mpr ⟨_, mem_of_entry?_eq_some found, ?_⟩)
  exact Descriptor.library?_eq_some_iff.mpr isLibrary

namespace Stocked

variable {registry : Registry}

/-- Everything that is not loose is on the shelf. -/
theorem map_shelf
    (stocked : registry.Stocked) :
    registry.shelf.map (·.2) = registry.libraryDescriptors := by
  rw [shelf, libraryDescriptors, List.map_filterMap, ← List.filterMap_eq_filter,
    List.filterMap_map]
  apply List.filterMap_congr
  intro item member
  have found := (stocked.consistent.entry?_eq_some_iff item.1 item.2).mpr member
  by_cases loose : item.2.element.IsLoose
  · simp [shelved?, Option.guard, loose]
  · obtain ⟨uri, ofUri⟩ := stocked.exists_uri found loose
    simp [shelved?, Option.guard, loose, ofUri]

/-- Removing the library with a uri takes everything with that uri out. -/
theorem shelf_removeAll
    (stocked : registry.Stocked)
    {roots : List EntryId}
    {uri : String}
    (isRoot : ∀ id, id ∈ roots ↔ registry.uriOf? id = some uri) :
    (registry.removeAll roots).shelf = registry.shelf.filter (·.1 ≠ uri) := by
  obtain ⟨all, equal, falling⟩ := stocked.consistent.removeAll_eq_without_falling roots
  rw [equal, shelf, shelf, List.filter_filterMap]
  change (registry.entries.filter (·.1 ∉ all)).filterMap _ = _
  rw [List.filterMap_filter]
  apply List.filterMap_congr
  intro item member
  have found := (stocked.consistent.entry?_eq_some_iff item.1 item.2).mpr member
  by_cases loose : item.2.element.IsLoose
  · simp [shelved?, loose]
  obtain ⟨other, ofUri⟩ := stocked.exists_uri found loose
  have areLibraries : ∀ root ∈ roots, ∃ uri, registry.uriOf? root = some uri := by
    intro root listed
    exact ⟨uri, (isRoot root).mp listed⟩
  have gone : item.1 ∈ all ↔ other = uri := by
    rw [falling, stocked.falls_iff areLibraries found loose, isRoot, ofUri, Option.some.injEq]
  by_cases same : other = uri
  · simp [shelved?, loose, gone.mpr same, ofUri, same, Option.filter]
  · have kept : item.1 ∉ all := fun goes => same (gone.mp goes)
    have holderKept : item.2.owner.getD item.1 ∉ all := by
      intro holderGoes
      cases belongs : item.2.owner with
      | none =>
          rw [belongs] at holderGoes
          exact kept holderGoes
      | some owner =>
          rw [belongs] at holderGoes
          exact kept ((falling item.1).mpr
            (Falls.owned member belongs ((falling owner).mp holderGoes)))
    have sameUri : (registry.without all).uriOf? (item.2.owner.getD item.1) = some other := by
      rw [uriOf?, entry?_without, if_neg holderKept]
      exact ofUri
    simp [shelved?, loose, kept, sameUri, ofUri, same, Option.filter]

/-- A group stands at the end of the shelf. -/
theorem shelf_addGroup
    (stocked : registry.Stocked)
    (now : Time)
    (library : TagLibrary) :
    (registry.addGroup now library).shelf =
      registry.shelf ++ library.descriptors.map (library.uri, ·) := by
  have consistent := stocked.consistent
  obtain ⟨members, entriesEq, elements, owned⟩ := registry.exists_entries_addGroup now library
  have libraryUri : (registry.addGroup now library).uriOf? ⟨registry.nextId⟩ =
      some library.uri :=
    (uriOf?_eq_some_iff ..).mpr
      ⟨_, library, consistent.entry?_addGroup_library now library, rfl, rfl⟩
  have ofOld : registry.entries.filterMap (registry.addGroup now library).shelved? =
      registry.shelf := by
    apply List.filterMap_congr
    intro item member
    have found := (consistent.entry?_eq_some_iff item.1 item.2).mpr member
    by_cases loose : item.2.element.IsLoose
    · simp [shelved?, loose]
    · obtain ⟨uri, ofUri⟩ := stocked.exists_uri found loose
      obtain ⟨holder, -, holderFound, -⟩ := (uriOf?_eq_some_iff ..).mp ofUri
      have known := consistent.value_lt_nextId
        ((mem_ids_iff_exists registry _).mpr ⟨holder, holderFound⟩)
      rw [shelved?, shelved?, uriOf?, uriOf?, consistent.entry?_addGroup now library known]
  have ofMembers : members.filterMap (registry.addGroup now library).shelved? =
      library.members.map (library.uri, ·) := by
    rw [← elements, List.map_map, ← List.filterMap_eq_map]
    apply List.filterMap_congr
    intro member inGroup
    have inLibrary := List.mem_map_of_mem (f := (·.2.element)) inGroup
    rw [elements] at inLibrary
    have notLoose := TagLibrary.not_isLoose_of_mem_members inLibrary
    simp [shelved?, notLoose, (owned member inGroup).1, libraryUri]
  have ofLibrary : (registry.addGroup now library).shelved?
      (⟨registry.nextId⟩, ⟨.library library, none, now, none⟩) =
        some (library.uri, .library library) := by
    simp [shelved?, Descriptor.IsLoose, libraryUri]
  rw [shelf, entriesEq, List.filterMap_append, ofOld, List.filterMap_cons, ofLibrary]
  simp only [ofMembers]
  rfl

/-- An import takes out what has the uri of the library and puts the library at
the end. -/
theorem shelf_importLibrary
    (stocked : registry.Stocked)
    (now : Time)
    (library : TagLibrary) :
    (registry.importLibrary now library).2.shelf =
      registry.shelf.filter (·.1 ≠ library.uri) ++ library.descriptors.map (library.uri, ·) := by
  obtain ⟨roots, roomEq, isRoot⟩ := stocked.exists_makeRoom_eq now library.uri
  rw [importLibrary_eq, roomEq, (stocked.removeAll roots).shelf_addGroup now library,
    stocked.shelf_removeAll isRoot]

/-- Removing the library with a uri removes no other library. -/
theorem uriOf?_removeAll
    (stocked : registry.Stocked)
    {roots : List EntryId}
    {uri : String}
    (isRoot : ∀ id, id ∈ roots ↔ registry.uriOf? id = some uri)
    (id : EntryId) :
    (registry.removeAll roots).uriOf? id = (registry.uriOf? id).filter (· ≠ uri) := by
  obtain ⟨all, equal, falling⟩ := stocked.consistent.removeAll_eq_without_falling roots
  rw [equal, uriOf?, entry?_without]
  cases ofUri : registry.uriOf? id with
  | none =>
      split
      · rfl
      · exact ofUri
  | some other =>
      obtain ⟨entry, library, found, isLibrary, -⟩ := (uriOf?_eq_some_iff ..).mp ofUri
      have notLoose : ¬entry.element.IsLoose := by
        rw [isLibrary]
        exact fun loose => loose
      have gone : id ∈ all ↔ other = uri := by
        rw [falling, stocked.falls_iff (fun root listed => ⟨uri, (isRoot root).mp listed⟩) found
          notLoose, stocked.owner_eq_none found isLibrary, Option.getD_none, isRoot, ofUri,
          Option.some.injEq]
      by_cases same : other = uri
      · simp [gone.mpr same, same, Option.filter]
      · rw [if_neg fun goes => same (gone.mp goes)]
        exact ofUri.trans (by simp [same, Option.filter])

/-- An import removes no library that was there but the one with the uri. -/
theorem uriOf?_importLibrary
    (stocked : registry.Stocked)
    (now : Time)
    (library : TagLibrary)
    {id : EntryId}
    (known : id.value < registry.nextId) :
    (registry.importLibrary now library).2.uriOf? id =
      (registry.uriOf? id).filter (· ≠ library.uri) := by
  obtain ⟨roots, roomEq, isRoot⟩ := stocked.exists_makeRoom_eq now library.uri
  have room := stocked.consistent.evolves_removeAll roots
  rw [importLibrary_eq, roomEq, ← stocked.uriOf?_removeAll isRoot id, uriOf?,
    room.consistent.entry?_addGroup now library (Nat.lt_of_lt_of_le known room.nextId_le)]
  rfl

end Stocked

/-! ## Entries that are no library's -/

/-- The entry is a library, or belongs to one directly or through others; or it
belongs so to an identity that was given out in between. -/
inductive OfLibrary (before after : Registry) : EntryId → Prop
  | library
      {id : EntryId}
      {entry : Entry}
      {library : TagLibrary}
      (found : before.entry? id = some entry)
      (isLibrary : entry.element = .library library) :
      OfLibrary before after id
  | added
      {id : EntryId}
      (unused : before.nextId ≤ id.value)
      (used : id.value < after.nextId) :
      OfLibrary before after id
  | owned
      {id owner : EntryId}
      {entry : Entry}
      (found : before.entry? id = some entry)
      (belongs : entry.owner = some owner)
      (ofLibrary : OfLibrary before after owner) :
      OfLibrary before after id

/-- What is no library's is as it was, and nothing else has come up under known
identities; what is new came with libraries. -/
structure Spares (before after : Registry) : Prop where
  consistent : after.Consistent
  nextId_le : before.nextId ≤ after.nextId
  known : ∀ id entry, id.value < before.nextId → after.entry? id = some entry →
    before.entry? id = some entry
  new : ∀ id entry, before.nextId ≤ id.value → after.entry? id = some entry →
    ¬entry.element.IsLoose ∧ entry.lifetime = none
  spared : ∀ id entry, before.entry? id = some entry → ¬before.OfLibrary after id →
    after.entry? id = some entry

theorem Consistent.spares_self
    {registry : Registry}
    (consistent : registry.Consistent) :
    Spares registry registry :=
  { consistent
    nextId_le := Nat.le_refl _
    known := fun _ _ _ found => found
    new := by
      intro id entry isNew found
      exact absurd (consistent.below _ (mem_of_entry?_eq_some found)) (Nat.not_lt_of_le isNew)
    spared := fun _ _ found _ => found }

namespace Spares

variable {before between after : Registry}

/-- What is a library's at first is so in the end. -/
theorem ofLibrary_of_first
    (second : Spares between after)
    {id : EntryId}
    (first : before.OfLibrary between id) :
    before.OfLibrary after id := by
  induction first with
  | library found isLibrary => exact .library found isLibrary
  | added unused used => exact .added unused (Nat.lt_of_lt_of_le used second.nextId_le)
  | owned found belongs _ ownerOfLibrary => exact .owned found belongs ownerOfLibrary

/-- What is a library's later was so before, or was added in between. -/
theorem ofLibrary_of_second
    (first : Spares before between)
    (second : Spares between after)
    {id : EntryId}
    (later : between.OfLibrary after id) :
    before.OfLibrary after id := by
  have below {id : EntryId} {entry : Entry} (found : between.entry? id = some entry) :
      id.value < after.nextId :=
    Nat.lt_of_lt_of_le (first.consistent.below _ (mem_of_entry?_eq_some found)) second.nextId_le
  induction later with
  | @library id entry _ found isLibrary =>
      rcases Nat.lt_or_ge id.value before.nextId with known | isNew
      · exact .library (first.known id entry known found) isLibrary
      · exact .added isNew (below found)
  | added unused used => exact .added (Nat.le_trans first.nextId_le unused) used
  | @owned id _ entry found belongs _ ownerOfLibrary =>
      rcases Nat.lt_or_ge id.value before.nextId with known | isNew
      · exact .owned (first.known id entry known found) belongs ownerOfLibrary
      · exact .added isNew (below found)

theorem trans
    (first : Spares before between)
    (second : Spares between after) :
    Spares before after :=
  { consistent := second.consistent
    nextId_le := Nat.le_trans first.nextId_le second.nextId_le
    known := by
      intro id entry known found
      exact first.known id entry known
        (second.known id entry (Nat.lt_of_lt_of_le known first.nextId_le) found)
    new := by
      intro id entry isNew found
      rcases Nat.lt_or_ge id.value between.nextId with earlier | later
      · exact first.new id entry isNew (second.known id entry earlier found)
      · exact second.new id entry later found
    spared := by
      intro id entry found notOfLibrary
      have spared := first.spared id entry found fun atFirst =>
        notOfLibrary (second.ofLibrary_of_first atFirst)
      exact second.spared id entry spared fun later =>
        notOfLibrary (first.ofLibrary_of_second second later) }

end Spares

/-- Removing libraries spares what is no library's. -/
theorem Consistent.spares_removeAll
    {registry : Registry}
    (consistent : registry.Consistent)
    {roots : List EntryId}
    (areLibraries : ∀ root ∈ roots, ∃ uri, registry.uriOf? root = some uri) :
    Spares registry (registry.removeAll roots) := by
  have evolves := consistent.evolves_removeAll roots
  have ofLibrary {id : EntryId} (falls : registry.Falls roots id) :
      registry.OfLibrary (registry.removeAll roots) id := by
    induction falls with
    | @root id listed _ =>
        obtain ⟨uri, ofUri⟩ := areLibraries id listed
        obtain ⟨entry, library, found, isLibrary, -⟩ := (uriOf?_eq_some_iff ..).mp ofUri
        exact .library found isLibrary
    | @owned item owner member belongs _ ownerOfLibrary =>
        exact .owned ((consistent.entry?_eq_some_iff item.1 item.2).mpr member) belongs
          ownerOfLibrary
  refine ⟨evolves.consistent, evolves.nextId_le,
    fun _ _ _ found => consistent.entry?_of_entry?_removeAll found, ?_, ?_⟩
  · intro id entry isNew found
    have old := consistent.entry?_of_entry?_removeAll found
    exact absurd (consistent.below _ (mem_of_entry?_eq_some old)) (Nat.not_lt_of_le isNew)
  intro id entry found notOfLibrary
  obtain ⟨all, equal, falling⟩ := consistent.removeAll_eq_without_falling roots
  rw [equal, entry?_without, if_neg fun goes => notOfLibrary (ofLibrary ((falling id).mp goes))]
  exact found

theorem Consistent.spares_addGroup
    {registry : Registry}
    (consistent : registry.Consistent)
    (now : Time)
    (library : TagLibrary) :
    Spares registry (registry.addGroup now library) := by
  have evolves := consistent.evolves_addGroup now library
  refine ⟨evolves.consistent, evolves.nextId_le, ?_, ?_, ?_⟩
  · intro id entry known found
    rwa [consistent.entry?_addGroup now library known] at found
  · intro id entry isNew found
    rcases consistent.cases_addGroup now library isNew found with ⟨-, rfl⟩ | ⟨-, static, inLibrary⟩
    · exact ⟨fun loose => loose, rfl⟩
    · exact ⟨TagLibrary.not_isLoose_of_mem_members inLibrary, static⟩
  · intro id entry found _
    rwa [consistent.entry?_addGroup now library (consistent.below _ (mem_of_entry?_eq_some found))]

theorem Stocked.spares_importLibrary
    {registry : Registry}
    (stocked : registry.Stocked)
    (now : Time)
    (library : TagLibrary) :
    Spares registry (registry.importLibrary now library).2 := by
  obtain ⟨roots, roomEq, isRoot⟩ := stocked.exists_makeRoom_eq now library.uri
  have room := stocked.consistent.spares_removeAll fun root listed =>
    ⟨library.uri, (isRoot root).mp listed⟩
  rw [importLibrary_eq, roomEq]
  exact room.trans (room.consistent.spares_addGroup now library)

end Registry
end JspCompletion
