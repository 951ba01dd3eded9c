import JspCompletion.Proofs.Registry.Answer
import JspCompletion.Proofs.Registry.Arrangement

/-!
# What is left of imports

A run may import libraries amid anything else.  The entries that an import
brings have no life, a library belongs to nothing, and its functions and tags
belong to it.  Whatever is done later leaves it so: reading touches no entry
without a life and removes none that belongs to such entries only, and a removal
takes members along with their library.

Nor are there ever two imported libraries with one uri, although an import may
read libraries of other origin, some of which change or go on the way: a library
that was imported is answered in any case, and so makes room.
-/

namespace JspCompletion
namespace Registry

/-- The uri of the library with an identity. -/
def uriOf? (registry : Registry) (id : EntryId) : Option String :=
  ((registry.entry? id).bind (·.element.library?)).map (·.uri)

theorem uriOf?_eq_some_iff
    (registry : Registry)
    (id : EntryId)
    (uri : String) :
    registry.uriOf? id = some uri ↔
      ∃ entry library, registry.entry? id = some entry ∧ entry.element = .library library ∧
        library.uri = uri := by
  simp only [uriOf?, Option.map_eq_some_iff, Option.bind_eq_some_iff,
    Descriptor.library?_eq_some_iff]
  constructor
  · rintro ⟨library, ⟨entry, found, isLibrary⟩, same⟩
    exact ⟨entry, library, found, isLibrary, same⟩
  · rintro ⟨entry, library, found, isLibrary, same⟩
    exact ⟨library, ⟨entry, found, isLibrary⟩, same⟩

theorem Consistent.mem_libraries_iff
    {registry : Registry}
    (consistent : registry.Consistent)
    (library : TagLibrary) :
    library ∈ registry.libraries ↔
      ∃ id entry, registry.entry? id = some entry ∧ entry.element = .library library := by
  simp only [libraries, List.mem_filterMap, Prod.exists, consistent.entry?_eq_some_iff,
    Descriptor.library?_eq_some_iff]

/-! ## A group at the end -/

/-- Add a library and, belonging to it, its functions and tags. -/
def addGroup (registry : Registry) (now : Time) (library : TagLibrary) : Registry :=
  (registry.add now (.library library)).2.addAll now (some ⟨registry.nextId⟩) library.members

/-- The query for the libraries with a uri. -/
def byUri (uri : String) : Query :=
  { kind := some .library
    rules := [{ property := "uri", values := [uri] }] }

/-- The registry after room was made for a library with a uri. -/
def makeRoom (registry : Registry) (now : Time) (uri : String) : Registry :=
  (registry.query now (byUri uri)).2.removeAll ((registry.query now (byUri uri)).1.map (·.1))

theorem importLibrary_eq
    (registry : Registry)
    (now : Time)
    (library : TagLibrary) :
    (registry.importLibrary now library).2 =
      (registry.makeRoom now library.uri).addGroup now library := rfl

/-- A library and its members stand behind everything else. -/
theorem entries_addGroup
    (registry : Registry)
    (now : Time)
    (library : TagLibrary) :
    (registry.addGroup now library).entries = registry.entries ++
      (⟨registry.nextId⟩, ⟨.library library, none, now, none⟩) ::
        numbered now (some ⟨registry.nextId⟩) library.members (registry.nextId + 1) := by
  rw [addGroup, entries_addAll]
  simp [add]

theorem exists_entries_addGroup
    (registry : Registry)
    (now : Time)
    (library : TagLibrary) :
    ∃ members, (registry.addGroup now library).entries =
        registry.entries ++ (⟨registry.nextId⟩, ⟨.library library, none, now, none⟩) :: members ∧
      members.map (·.2.element) = library.members ∧
      ∀ member ∈ members, member.2.owner = some ⟨registry.nextId⟩ ∧ member.2.lifetime = none :=
  ⟨_, registry.entries_addGroup now library, map_element_numbered ..,
    fun _ member => eq_of_mem_numbered member⟩

theorem Consistent.evolves_addGroup
    {registry : Registry}
    (consistent : registry.Consistent)
    (now : Time)
    (library : TagLibrary) :
    Evolves True registry (registry.addGroup now library) := by
  have added : Evolves True registry (registry.add now (.library library)).2 :=
    (consistent.evolves_add now (.library library) none none).imp (by simp)
  refine added.andThen (added.consistent.evolves_addAll now _ ?_ _)
  rw [ids_add]
  exact List.mem_append_right _ List.mem_cons_self

theorem Consistent.evolves_makeRoom
    {registry : Registry}
    (consistent : registry.Consistent)
    (now : Time)
    (uri : String) :
    Evolves True registry (registry.makeRoom now uri) := by
  have queried := consistent.evolves_readAll now (byUri uri) (registry.candidates (byUri uri))
  exact queried.andThen (queried.consistent.evolves_removeAll _)

/-- Known identities stand for what they stood for. -/
theorem Consistent.entry?_addGroup
    {registry : Registry}
    (consistent : registry.Consistent)
    (now : Time)
    (library : TagLibrary)
    {id : EntryId}
    (known : id.value < registry.nextId) :
    Registry.entry? (registry.addGroup now library) id = registry.entry? id := by
  have evolves := consistent.evolves_addGroup now library
  obtain ⟨members, entriesEq, -, -⟩ := registry.exists_entries_addGroup now library
  have older : ∀ item ∈ (registry.addGroup now library).entries, item.1.value < registry.nextId →
      item ∈ registry.entries := by
    intro item member below
    have increasing := evolves.consistent.increasing
    rw [entriesEq] at member increasing
    rcases List.mem_append.mp member with old | new
    · exact old
    · obtain ⟨first, -⟩ := List.pairwise_cons.mp (List.pairwise_append.mp increasing).2.1
      rcases List.mem_cons.mp new with rfl | inGroup
      · exact absurd below (Nat.lt_irrefl _)
      · exact absurd below (Nat.lt_asymm (first item inGroup))
  apply Option.ext
  intro entry
  rw [evolves.consistent.entry?_eq_some_iff, consistent.entry?_eq_some_iff]
  constructor
  · intro member
    exact older _ member known
  · intro member
    rw [entriesEq]
    exact List.mem_append_left _ member

/-- The libraries with a uri. -/
def carriers (registry : Registry) (uri : String) : List EntryId :=
  registry.ids.filter (registry.uriOf? · == some uri)

theorem mem_carriers_iff
    (registry : Registry)
    (uri : String)
    (id : EntryId) :
    id ∈ registry.carriers uri ↔ registry.uriOf? id = some uri := by
  rw [carriers, List.mem_filter, beq_iff_eq]
  refine and_iff_right_of_imp ?_
  intro ofUri
  obtain ⟨entry, -, found, -, -⟩ := (uriOf?_eq_some_iff ..).mp ofUri
  exact (mem_ids_iff_exists ..).mpr ⟨entry, found⟩

/-- The query for a uri selects the libraries that have it. -/
theorem exists_selected?_byUri_iff
    (registry : Registry)
    (uri : String)
    (id : EntryId) :
    (∃ answer, registry.selected? (byUri uri) id = some answer) ↔
      id ∈ registry.carriers uri := by
  rw [mem_carriers_iff, uriOf?_eq_some_iff]
  constructor
  · rintro ⟨answer, selected⟩
    obtain ⟨rfl, entry, found, element, selects⟩ := (selected?_eq_some_iff ..).mp selected
    obtain ⟨library, isLibrary, same⟩ := (selects_sameUri_iff uri _).mp selects
    exact ⟨entry, library, found, element.trans isLibrary, same⟩
  · rintro ⟨entry, library, found, isLibrary, same⟩
    exact ⟨(id, entry.element), (selected?_eq_some_iff ..).mpr
      ⟨rfl, entry, found, rfl, (selects_sameUri_iff uri _).mpr ⟨library, isLibrary, same⟩⟩⟩

/-- To make room is to read all libraries, and to take out of what is left those
with the uri and everything that belongs to them.  Libraries that were answered
and went on the way are refused, which changes nothing. -/
theorem Consistent.entry?_makeRoom
    {registry : Registry}
    (consistent : registry.Consistent)
    (now : Time)
    (uri : String)
    (id : EntryId) :
    let between := (registry.query now (byUri uri)).2
    (between.Falls (between.carriers uri) id →
      Registry.entry? (registry.makeRoom now uri) id = none) ∧
    (¬between.Falls (between.carriers uri) id →
      Registry.entry? (registry.makeRoom now uri) id = between.entry? id) := by
  intro between
  have nodup := consistent.candidates_nodup (byUri uri)
  have read := consistent.reread_query now (byUri uri)
  let answered := (registry.query now (byUri uri)).1.map (·.1)
  obtain ⟨all, equal, falling⟩ := read.consistent.removeAll_eq_without_falling answered
  have sameFall : between.Falls answered id ↔ between.Falls (between.carriers uri) id := by
    constructor
    · intro falls
      refine falls.of_live_roots ?_
      intro root listed live
      obtain ⟨answer, isAnswer, rfl⟩ := List.mem_map.mp listed
      rw [← exists_selected?_byUri_iff]
      exact ⟨answer, consistent.selected?_of_mem_readAll now (byUri uri) _ nodup isAnswer live⟩
    · intro falls
      refine falls.of_live_roots ?_
      intro root listed _
      obtain ⟨answer, selected⟩ := (exists_selected?_byUri_iff ..).mpr listed
      obtain ⟨rfl, entry, found, element, selects⟩ := (selected?_eq_some_iff ..).mp selected
      refine List.mem_map_of_mem (consistent.mem_readAll now (byUri uri) _ nodup ?_ selected)
      exact consistent.mem_candidates_of_selects now (byUri uri) found (element ▸ selects)
  have outcome : Registry.entry? (registry.makeRoom now uri) id =
      if id ∈ all then none else between.entry? id := by
    rw [makeRoom, equal, entry?_without]
  rw [outcome, ← sameFall, ← falling]
  exact ⟨fun goes => if_pos goes, fun stays => if_neg stays⟩

/-- After room was made, no library has the uri. -/
theorem Consistent.uriOf?_makeRoom
    {registry : Registry}
    (consistent : registry.Consistent)
    (now : Time)
    (uri : String)
    (id : EntryId) :
    (registry.makeRoom now uri).uriOf? id ≠ some uri := by
  intro ofUri
  let between := (registry.query now (byUri uri)).2
  obtain ⟨goes, stays⟩ := consistent.entry?_makeRoom now uri id
  obtain ⟨entry, library, found, isLibrary, same⟩ := (uriOf?_eq_some_iff ..).mp ofUri
  by_cases falls : between.Falls (between.carriers uri) id
  · rw [goes falls] at found
    cases found
  · rw [stays falls] at found
    refine falls (Falls.root ?_ ((mem_ids_iff_exists ..).mpr ⟨entry, found⟩))
    rw [mem_carriers_iff, uriOf?_eq_some_iff]
    exact ⟨entry, library, found, isLibrary, same⟩

theorem Consistent.nextId_makeRoom
    {registry : Registry}
    (consistent : registry.Consistent)
    (now : Time)
    (uri : String) :
    (registry.makeRoom now uri).nextId = registry.nextId := by
  have read := consistent.reread_query now (byUri uri)
  obtain ⟨all, equal, -⟩ := read.consistent.removeAll_eq_without
    ((registry.query now (byUri uri)).1.map (·.1))
  exact (congrArg nextId equal).trans read.nextId

/-- The library of a group. -/
theorem Consistent.entry?_addGroup_library
    {registry : Registry}
    (consistent : registry.Consistent)
    (now : Time)
    (library : TagLibrary) :
    Registry.entry? (registry.addGroup now library) ⟨registry.nextId⟩ =
      some ⟨.library library, none, now, none⟩ := by
  obtain ⟨members, entriesEq, -, -⟩ := registry.exists_entries_addGroup now library
  rw [(consistent.evolves_addGroup now library).consistent.entry?_eq_some_iff, entriesEq]
  exact List.mem_append_right _ List.mem_cons_self

/-- What is new in a group is the library or belongs to it. -/
theorem Consistent.cases_addGroup
    {registry : Registry}
    (consistent : registry.Consistent)
    (now : Time)
    (library : TagLibrary)
    {id : EntryId}
    {entry : Entry}
    (isNew : registry.nextId ≤ id.value)
    (found : Registry.entry? (registry.addGroup now library) id = some entry) :
    (id = ⟨registry.nextId⟩ ∧ entry = ⟨.library library, none, now, none⟩) ∨
      (entry.owner = some ⟨registry.nextId⟩ ∧ entry.lifetime = none ∧
        entry.element ∈ library.members) := by
  obtain ⟨members, entriesEq, elements, owned⟩ := registry.exists_entries_addGroup now library
  have member := mem_of_entry?_eq_some found
  rw [entriesEq] at member
  rcases List.mem_append.mp member with old | inGroup
  · exact absurd (consistent.below _ old) (Nat.not_lt_of_le isNew)
  rcases List.mem_cons.mp inGroup with isLibrary | isMember
  · exact Or.inl (Prod.mk.inj isLibrary)
  · have inLibrary := List.mem_map_of_mem (f := (·.2.element)) isMember
    rw [elements] at inLibrary
    exact Or.inr ⟨(owned _ isMember).1, (owned _ isMember).2, inLibrary⟩

/-- Its uri is that of no other new entry. -/
theorem Consistent.uriOf?_addGroup
    {registry : Registry}
    (consistent : registry.Consistent)
    (now : Time)
    (library : TagLibrary)
    {id : EntryId}
    {uri : String}
    (isNew : registry.nextId ≤ id.value)
    (ofUri : (registry.addGroup now library).uriOf? id = some uri) :
    id = ⟨registry.nextId⟩ ∧ uri = library.uri := by
  obtain ⟨entry, other, found, isLibrary, rfl⟩ := (uriOf?_eq_some_iff ..).mp ofUri
  rcases consistent.cases_addGroup now library isNew found with ⟨rfl, rfl⟩ | ⟨-, -, inLibrary⟩
  · cases isLibrary
    exact ⟨rfl, rfl⟩
  · have notLibrary := TagLibrary.library?_of_mem_members inLibrary
    rw [isLibrary] at notLibrary
    cases notLibrary

/-! ## Imported entries -/

/-- The identities of a list were given out in imports, and what is left under
them is as imports put it. -/
structure Intact (registry : Registry) (imported : List EntryId) : Prop where
  /-- They were given out. -/
  used : ∀ id ∈ imported, id.value < registry.nextId
  /-- Nothing imported has a life. -/
  static : ∀ id ∈ imported, ∀ entry, registry.entry? id = some entry → entry.lifetime = none
  /-- An imported library belongs to nothing. -/
  unowned : ∀ id ∈ imported, ∀ entry library, registry.entry? id = some entry →
    entry.element = .library library → entry.owner = none
  /-- All else that was imported belongs to a library that was. -/
  placed : ∀ id ∈ imported, ∀ entry, registry.entry? id = some entry →
    entry.owner.getD id ∈ imported ∧ ∃ uri, registry.uriOf? (entry.owner.getD id) = some uri
  /-- Libraries that were imported have different uris. -/
  uris : ∀ left ∈ imported, ∀ right ∈ imported, ∀ uri, registry.uriOf? left = some uri →
    registry.uriOf? right = some uri → left = right

namespace Intact

variable {registry : Registry} {imported : List EntryId}

/-- Only what stands under the identities matters. -/
theorem congr
    {after : Registry}
    (intact : registry.Intact imported)
    (nextId_le : registry.nextId ≤ after.nextId)
    (same : ∀ id ∈ imported, after.entry? id = registry.entry? id) :
    after.Intact imported := by
  have sameUri : ∀ id ∈ imported, after.uriOf? id = registry.uriOf? id := by
    intro id listed
    rw [uriOf?, uriOf?, same id listed]
  refine
    { used := fun id listed => Nat.lt_of_lt_of_le (intact.used id listed) nextId_le
      static := ?_
      unowned := ?_
      placed := ?_
      uris := ?_ }
  · intro id listed entry found
    exact intact.static id listed entry (same id listed ▸ found)
  · intro id listed entry library found
    exact intact.unowned id listed entry library (same id listed ▸ found)
  · intro id listed entry found
    obtain ⟨holder, holderUri⟩ := intact.placed id listed entry (same id listed ▸ found)
    rw [sameUri _ holder]
    exact ⟨holder, holderUri⟩
  · intro left leftListed right rightListed
    rw [sameUri left leftListed, sameUri right rightListed]
    exact intact.uris left leftListed right rightListed

/-- What was imported goes only by itself or with its library. -/
theorem listed_of_falls
    (intact : registry.Intact imported)
    (consistent : registry.Consistent)
    {roots : List EntryId}
    {id : EntryId}
    {entry : Entry}
    (listed : id ∈ imported)
    (found : registry.entry? id = some entry)
    (falls : registry.Falls roots id) :
    id ∈ roots ∨ entry.owner.getD id ∈ roots := by
  cases falls with
  | root isRoot _ => exact Or.inl isRoot
  | @owned item owner member belongs ownerFalls =>
      rw [(consistent.entry?_eq_some_iff item.1 item.2).mpr member, Option.some.injEq] at found
      rw [found] at belongs
      obtain ⟨ownerListed, uri, ownerUri⟩ := intact.placed _ listed item.2
        ((consistent.entry?_eq_some_iff item.1 item.2).mpr member)
      rw [found, belongs, Option.getD_some] at ownerListed ownerUri
      obtain ⟨holder, library, holderFound, isLibrary, -⟩ := (uriOf?_eq_some_iff ..).mp ownerUri
      rw [belongs, Option.getD_some]
      right
      cases ownerFalls with
      | root isRoot _ => exact isRoot
      | @owned other _ otherMember otherBelongs _ =>
          have otherFound := (consistent.entry?_eq_some_iff other.1 other.2).mpr otherMember
          rw [otherFound, Option.some.injEq] at holderFound
          have noOwner := intact.unowned _ ownerListed other.2 library otherFound
            (holderFound ▸ isLibrary)
          rw [otherBelongs] at noOwner
          cases noOwner

/-- Reading leaves imported entries as they are. -/
theorem entry?_reread
    {after : Registry}
    {now : Time}
    {ids : List EntryId}
    (intact : registry.Intact imported)
    (consistent : registry.Consistent)
    (read : Reread now ids registry after)
    {id : EntryId}
    (listed : id ∈ imported) :
    after.entry? id = registry.entry? id := by
  cases found : registry.entry? id with
  | none =>
      rw [ entry?_eq_none_iff] at found ⊢
      intro live
      obtain ⟨entry, entryFound⟩ := (mem_ids_iff_exists after id).mp live
      obtain ⟨-, old, oldFound, -⟩ := read.exists_before entryFound
      exact found ((mem_ids_iff_exists registry id).mpr ⟨old, oldFound⟩)
  | some entry =>
      have fresh {other : EntryId} (otherListed : other ∈ imported) :
          other ∉ registry.doomed now ids := by
        intro isRoot
        obtain ⟨-, otherEntry, otherFound, isDoomed⟩ := (mem_doomed_iff ..).mp isRoot
        have static := intact.static other otherListed otherEntry otherFound
        simp [Entry.isDoomed, isExpired, static] at isDoomed
      have stays : ¬registry.Falls (registry.doomed now ids) id := by
        intro falls
        rcases intact.listed_of_falls consistent listed found falls with itself | withLibrary
        · exact fresh listed itself
        · exact fresh (intact.placed id listed entry found).1 withLibrary
      have static := intact.static id listed entry found
      rw [read.left id stays, found, Option.map_some]
      simp [Entry.reread, isExpired, static]

theorem reread
    {after : Registry}
    {now : Time}
    {ids : List EntryId}
    (intact : registry.Intact imported)
    (consistent : registry.Consistent)
    (read : Reread now ids registry after) :
    after.Intact imported :=
  intact.congr (Nat.le_of_eq read.nextId.symm) fun _ listed =>
    intact.entry?_reread consistent read listed

/-- Members go with their library, so what stays is in place. -/
theorem removeAll
    (intact : registry.Intact imported)
    (consistent : registry.Consistent)
    (roots : List EntryId) :
    (registry.removeAll roots).Intact imported := by
  obtain ⟨all, equal, closed⟩ := consistent.removeAll_eq_without roots
  rw [equal]
  have stays {id : EntryId} {entry : Entry}
      (found : Registry.entry? (registry.without all) id = some entry) :
      id ∉ all ∧ registry.entry? id = some entry := by
    rw [ entry?_without] at found
    split at found
    · cases found
    · exact ⟨‹_›, found⟩
  have uriStays {id : EntryId} {uri : String}
      (ofUri : (registry.without all).uriOf? id = some uri) :
      registry.uriOf? id = some uri := by
    obtain ⟨entry, library, found, isLibrary, same⟩ := (uriOf?_eq_some_iff ..).mp ofUri
    exact (uriOf?_eq_some_iff ..).mpr ⟨entry, library, (stays found).2, isLibrary, same⟩
  refine
    { used := intact.used
      static := fun id listed entry found => intact.static id listed entry (stays found).2
      unowned := fun id listed entry library found =>
        intact.unowned id listed entry library (stays found).2
      placed := ?_
      uris := fun left leftListed right rightListed uri leftUri rightUri =>
        intact.uris left leftListed right rightListed uri (uriStays leftUri) (uriStays rightUri) }
  intro id listed entry found
  obtain ⟨kept, oldFound⟩ := stays found
  obtain ⟨holder, uri, holderUri⟩ := intact.placed id listed entry oldFound
  refine ⟨holder, uri, ?_⟩
  have holderKept : entry.owner.getD id ∉ all := by
    cases belongs : entry.owner with
    | none => exact kept
    | some owner =>
        exact fun gone => kept (closed (id, entry) (mem_of_entry?_eq_some oldFound) owner gone belongs)
  rw [uriOf?, entry?_without, if_neg holderKept]
  exact holderUri

/-- A group with a new uri joins what was imported. -/
theorem addGroup
    (intact : registry.Intact imported)
    (consistent : registry.Consistent)
    (now : Time)
    (library : TagLibrary)
    (newUri : ∀ id, registry.uriOf? id ≠ some library.uri) :
    (registry.addGroup now library).Intact
      (imported ++ (registry.addGroup now library).ids.filter (registry.nextId ≤ ·.value)) := by
  let after := registry.addGroup now library
  have evolves : Evolves True registry after := consistent.evolves_addGroup now library
  have old : after.Intact imported := intact.congr evolves.nextId_le fun id listed =>
    consistent.entry?_addGroup now library (intact.used id listed)
  have oldUri {id : EntryId} (listed : id ∈ imported) : after.uriOf? id ≠ some library.uri := by
    rw [uriOf?, consistent.entry?_addGroup now library (intact.used id listed)]
    exact newUri id
  have libraryFound := consistent.entry?_addGroup_library now library
  have libraryListed : (⟨registry.nextId⟩ : EntryId) ∈
      after.ids.filter (registry.nextId ≤ ·.value) := by
    refine List.mem_filter.mpr ⟨(mem_ids_iff_exists after _).mpr ⟨_, libraryFound⟩, ?_⟩
    exact decide_eq_true (Nat.le_refl _)
  have split {id : EntryId}
      (listed : id ∈ imported ++ after.ids.filter (registry.nextId ≤ ·.value)) :
      id ∈ imported ∨ (registry.nextId ≤ id.value ∧ id ∈ after.ids) := by
    simpa [and_comm] using listed
  refine
    { used := ?_
      static := ?_
      unowned := ?_
      placed := ?_
      uris := ?_ }
  · intro id listed
    rcases split listed with isOld | ⟨-, live⟩
    · exact old.used id isOld
    · exact evolves.consistent.value_lt_nextId live
  · intro id listed entry found
    rcases split listed with isOld | ⟨isNew, -⟩
    · exact old.static id isOld entry found
    · rcases consistent.cases_addGroup now library isNew found with ⟨-, rfl⟩ | ⟨-, static, -⟩
      · rfl
      · exact static
  · intro id listed entry other found isLibrary
    rcases split listed with isOld | ⟨isNew, -⟩
    · exact old.unowned id isOld entry other found isLibrary
    · rcases consistent.cases_addGroup now library isNew found with ⟨-, rfl⟩ | ⟨-, -, inLibrary⟩
      · rfl
      · have notLibrary := TagLibrary.library?_of_mem_members inLibrary
        rw [isLibrary] at notLibrary
        cases notLibrary
  · intro id listed entry found
    rcases split listed with isOld | ⟨isNew, -⟩
    · obtain ⟨holder, holderUri⟩ := old.placed id isOld entry found
      exact ⟨List.mem_append_left _ holder, holderUri⟩
    · have holderEq : entry.owner.getD id = ⟨registry.nextId⟩ := by
        rcases consistent.cases_addGroup now library isNew found with ⟨rfl, rfl⟩ | ⟨belongs, -, -⟩
        · rfl
        · rw [belongs, Option.getD_some]
      rw [holderEq]
      exact ⟨List.mem_append_right _ libraryListed, library.uri,
        (uriOf?_eq_some_iff ..).mpr ⟨_, library, libraryFound, rfl, rfl⟩⟩
  · intro left leftListed right rightListed uri leftUri rightUri
    rcases split leftListed with leftOld | ⟨leftNew, -⟩
    · rcases split rightListed with rightOld | ⟨rightNew, -⟩
      · exact old.uris left leftOld right rightOld uri leftUri rightUri
      · rw [(consistent.uriOf?_addGroup now library rightNew rightUri).2] at leftUri
        exact absurd leftUri (oldUri leftOld)
    · obtain ⟨rfl, rfl⟩ := consistent.uriOf?_addGroup now library leftNew leftUri
      rcases split rightListed with rightOld | ⟨rightNew, -⟩
      · exact absurd rightUri (oldUri rightOld)
      · exact (consistent.uriOf?_addGroup now library rightNew rightUri).1.symm

theorem importLibrary
    (intact : registry.Intact imported)
    (consistent : registry.Consistent)
    (now : Time)
    (library : TagLibrary) :
    (registry.importLibrary now library).2.Intact
      (imported ++
        (registry.importLibrary now library).2.ids.filter (registry.nextId ≤ ·.value)) := by
  have read := consistent.reread_query now (byUri library.uri)
  have room : (registry.makeRoom now library.uri).Intact imported :=
    (intact.reread consistent read).removeAll read.consistent _
  have added := room.addGroup (consistent.evolves_makeRoom now library.uri).consistent now library
    (consistent.uriOf?_makeRoom now library.uri)
  rwa [consistent.nextId_makeRoom now library.uri] at added

end Intact

/-! ## Runs -/

/-- The identities that a step gives out if it is an import. -/
def importedBy (registry : Registry) (step : Step) : List EntryId :=
  match step.operation with
  | .importLibrary _ => (registry.after step).ids.filter (registry.nextId ≤ ·.value)
  | _ => []

/-- The identities that the imports of a run give out. -/
def imported (registry : Registry) : List Step → List EntryId
  | [] => []
  | step :: rest => registry.importedBy step ++ (registry.after step).imported rest

theorem Intact.after
    {registry : Registry}
    {known : List EntryId}
    (intact : registry.Intact known)
    (consistent : registry.Consistent)
    (step : Step) :
    (registry.after step).Intact (known ++ registry.importedBy step) := by
  obtain ⟨now, operation⟩ := step
  cases operation with
  | importLibrary library => exact intact.importLibrary consistent now library
  | add element owner lifetime =>
      rw [importedBy, List.append_nil]
      refine intact.congr (Nat.le_succ _) ?_
      intro id listed
      have notNew : id ≠ ⟨registry.nextId⟩ := by
        rintro rfl
        exact Nat.lt_irrefl _ (intact.used _ listed)
      exact (consistent.entry?_add now element owner lifetime id).trans (if_neg notNew)
  | remove id =>
      rw [importedBy, List.append_nil]
      simp only [Registry.after, remove]
      cases registry.entry? id with
      | none => exact intact
      | some entry => exact intact.removeAll consistent [id]
  | get id =>
      rw [importedBy, List.append_nil]
      exact intact.reread consistent (consistent.reread_get now id)
  | query query =>
      rw [importedBy, List.append_nil]
      exact intact.reread consistent (consistent.reread_query now query)

theorem Intact.run
    {registry : Registry}
    {known : List EntryId}
    (intact : registry.Intact known)
    (consistent : registry.Consistent)
    (steps : List Step) :
    (registry.run steps).Intact (known ++ registry.imported steps) := by
  induction steps generalizing registry known with
  | nil => simpa [imported] using intact
  | cons step rest inductionHypothesis =>
      rw [imported, ← List.append_assoc]
      exact inductionHypothesis (intact.after consistent step)
        (consistent.evolves_after step).consistent

end Registry
end JspCompletion
