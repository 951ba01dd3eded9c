import JspCompletion.Proofs.Registry.Steady

/-!
# How libraries and their members are arranged

The registry lists functions and tags beside the libraries that hold them.  The
two views agree because of how the entries are arranged: each library is
followed directly by its functions and tags, which belong to it, and between
such groups stand only entries that have nothing to do with libraries.

Adding at the end and removing groups keeps the arrangement.  Removal keeps it
because the cascade takes out with a library exactly the members behind it, as
long as no function or tag is removed on its own.
-/

namespace JspCompletion

/-- The function that a descriptor describes. -/
def Descriptor.function? : Descriptor → Option LibraryFunction
  | function item => some item
  | _ => none

/-- The tag that a descriptor describes. -/
def Descriptor.tag? : Descriptor → Option LibraryTag
  | tag item => some item
  | _ => none

theorem Descriptor.library?_eq_some_iff
    {descriptor : Descriptor}
    {library : TagLibrary} :
    descriptor.library? = some library ↔ descriptor = .library library := by
  cases descriptor <;> simp [library?]

/-- The descriptor has nothing to do with libraries. -/
def Descriptor.IsLoose : Descriptor → Prop
  | library _ | function _ | tag _ => False
  | _ => True

theorem Descriptor.IsLoose.library?_eq_none
    {descriptor : Descriptor}
    (isLoose : descriptor.IsLoose) :
    descriptor.library? = none := by
  cases descriptor with
  | library => exact isLoose.elim
  | _ => rfl

theorem Descriptor.IsLoose.function?_eq_none
    {descriptor : Descriptor}
    (isLoose : descriptor.IsLoose) :
    descriptor.function? = none := by
  cases descriptor with
  | function => exact isLoose.elim
  | _ => rfl

theorem Descriptor.IsLoose.tag?_eq_none
    {descriptor : Descriptor}
    (isLoose : descriptor.IsLoose) :
    descriptor.tag? = none := by
  cases descriptor with
  | tag => exact isLoose.elim
  | _ => rfl

/-- The functions and tags of a library, in the order of their registration. -/
def TagLibrary.members (library : TagLibrary) : List Descriptor :=
  library.functions.map Descriptor.function ++ library.tags.map Descriptor.tag

theorem TagLibrary.library?_of_mem_members
    {library : TagLibrary}
    {member : Descriptor}
    (listed : member ∈ library.members) :
    member.library? = none := by
  rcases List.mem_append.mp listed with inFunctions | inTags
  · obtain ⟨function, -, rfl⟩ := List.mem_map.mp inFunctions
    rfl
  · obtain ⟨tag, -, rfl⟩ := List.mem_map.mp inTags
    rfl

theorem TagLibrary.not_isLoose_of_mem_members
    {library : TagLibrary}
    {member : Descriptor}
    (listed : member ∈ library.members) :
    ¬member.IsLoose := by
  rcases List.mem_append.mp listed with inFunctions | inTags
  · obtain ⟨function, -, rfl⟩ := List.mem_map.mp inFunctions
    exact id
  · obtain ⟨tag, -, rfl⟩ := List.mem_map.mp inTags
    exact id

theorem TagLibrary.filterMap_function?_members
    (library : TagLibrary) :
    library.members.filterMap Descriptor.function? = library.functions := by
  simp [members, List.filterMap_map, Function.comp_def, Descriptor.function?]

theorem TagLibrary.filterMap_tag?_members
    (library : TagLibrary) :
    library.members.filterMap Descriptor.tag? = library.tags := by
  simp [members, List.filterMap_map, Function.comp_def, Descriptor.tag?]

namespace Registry

/-- The registered functions, in order of insertion. -/
def functions (registry : Registry) : List LibraryFunction :=
  registry.entries.filterMap (·.2.element.function?)

/-- The registered tags, in order of insertion. -/
def tags (registry : Registry) : List LibraryTag :=
  registry.entries.filterMap (·.2.element.tag?)

theorem filterMap_holdings
    {α : Type}
    (registry : Registry)
    (view? : Descriptor → Option α) :
    registry.holdings.filterMap (view? ·.element) =
      registry.entries.filterMap (view? ·.2.element) := by
  rw [holdings, List.filterMap_map]
  rfl

/-! ## Groups -/

/-- Each library is followed by its members, which belong to it, and nothing
else has an owner. -/
inductive Arranged : List Holding → Prop
  | nil : Arranged []
  | loose
      {holding : Holding}
      {rest : List Holding}
      (isLoose : holding.element.IsLoose)
      (unowned : holding.owner = none)
      (arranged : Arranged rest) :
      Arranged (holding :: rest)
  | group
      {id : EntryId}
      {library : TagLibrary}
      {members rest : List Holding}
      (elements : members.map (·.element) = library.members)
      (owned : ∀ member ∈ members, member.owner = some id)
      (arranged : Arranged rest) :
      Arranged (⟨id, .library library, none⟩ :: (members ++ rest))

namespace Arranged

variable {left right holdings : List Holding}

theorem append
    (arrangedLeft : Arranged left)
    (arrangedRight : Arranged right) :
    Arranged (left ++ right) := by
  induction arrangedLeft with
  | nil => exact arrangedRight
  | loose isLoose unowned _ inductionHypothesis => exact .loose isLoose unowned inductionHypothesis
  | group elements owned _ inductionHypothesis =>
      rw [List.cons_append, List.append_assoc]
      exact .group elements owned inductionHypothesis

/-- What belongs to something is no library. -/
theorem owner_of_library
    (arranged : Arranged holdings)
    {holding : Holding}
    (member : holding ∈ holdings)
    {library : TagLibrary}
    (isLibrary : holding.element = .library library) :
    holding.owner = none := by
  induction arranged with
  | nil => cases member
  | loose isLoose unowned _ inductionHypothesis =>
      rcases List.mem_cons.mp member with rfl | later
      · exact unowned
      · exact inductionHypothesis later
  | group elements owned _ inductionHypothesis =>
      rcases List.mem_cons.mp member with rfl | later
      · rfl
      rcases List.mem_append.mp later with inGroup | behind
      · have listed := List.mem_map_of_mem (f := (·.element)) inGroup
        rw [elements] at listed
        have notLibrary := TagLibrary.library?_of_mem_members listed
        rw [isLibrary] at notLibrary
        cases notLibrary
      · exact inductionHypothesis behind

/-- What has nothing to do with libraries belongs to nothing. -/
theorem owner_of_loose
    (arranged : Arranged holdings)
    {holding : Holding}
    (member : holding ∈ holdings)
    (isLoose : holding.element.IsLoose) :
    holding.owner = none := by
  induction arranged with
  | nil => cases member
  | loose _ unowned _ inductionHypothesis =>
      rcases List.mem_cons.mp member with rfl | later
      · exact unowned
      · exact inductionHypothesis later
  | group elements _ _ inductionHypothesis =>
      rcases List.mem_cons.mp member with rfl | later
      · rfl
      rcases List.mem_append.mp later with inGroup | behind
      · have listed := List.mem_map_of_mem (f := (·.element)) inGroup
        rw [elements] at listed
        exact absurd isLoose (TagLibrary.not_isLoose_of_mem_members listed)
      · exact inductionHypothesis behind

/-- All else is a library, or belongs to one. -/
theorem exists_library
    (arranged : Arranged holdings)
    {holding : Holding}
    (member : holding ∈ holdings)
    (notLoose : ¬holding.element.IsLoose) :
    ∃ library, ⟨holding.owner.getD holding.id, .library library, none⟩ ∈ holdings := by
  induction arranged with
  | nil => cases member
  | loose isLoose _ _ inductionHypothesis =>
      rcases List.mem_cons.mp member with rfl | later
      · exact absurd isLoose notLoose
      obtain ⟨library, listed⟩ := inductionHypothesis later
      exact ⟨library, List.mem_cons_of_mem _ listed⟩
  | @group id library members rest _ owned _ inductionHypothesis =>
      rcases List.mem_cons.mp member with rfl | later
      · exact ⟨library, List.mem_cons_self⟩
      rcases List.mem_append.mp later with inGroup | behind
      · refine ⟨library, ?_⟩
        rw [owned holding inGroup]
        exact List.mem_cons_self
      obtain ⟨other, listed⟩ := inductionHypothesis behind
      exact ⟨other, List.mem_cons_of_mem _ (List.mem_append_right _ listed)⟩

/-- Whole groups can be taken out. -/
theorem filter
    (arranged : Arranged holdings)
    (removed : List EntryId)
    (together : ∀ holding ∈ holdings, ∀ owner, holding.owner = some owner →
      (holding.id ∈ removed ↔ owner ∈ removed)) :
    Arranged (holdings.filter (·.id ∉ removed)) := by
  induction arranged with
  | nil => exact .nil
  | loose isLoose unowned _ inductionHypothesis =>
      have later := inductionHypothesis fun other member =>
        together other (List.mem_cons_of_mem _ member)
      rw [List.filter_cons]
      split
      · exact .loose isLoose unowned later
      · exact later
  | @group id library members rest elements owned _ inductionHypothesis =>
      have later := inductionHypothesis fun other member =>
        together other (List.mem_cons_of_mem _ (List.mem_append_right _ member))
      have alike : ∀ member ∈ members, (member.id ∈ removed ↔ id ∈ removed) := by
        intro member listed
        exact together member (List.mem_cons_of_mem _ (List.mem_append_left _ listed)) id
          (owned member listed)
      rw [List.filter_cons, List.filter_append]
      by_cases gone : id ∈ removed
      · have none : members.filter (·.id ∉ removed) = [] := by
          rw [List.filter_eq_nil_iff]
          intro member listed
          simpa using (alike member listed).mpr gone
        rw [none]
        simpa [gone] using later
      · have all : members.filter (·.id ∉ removed) = members := by
          rw [List.filter_eq_self]
          intro member listed
          simpa using fun memberGone => gone ((alike member listed).mp memberGone)
        rw [all]
        simpa [gone] using Arranged.group elements owned later

/-- A flat view of the members of all libraries, for functions and tags
alike. -/
theorem filterMap_eq_flatMap
    {α : Type}
    (arranged : Arranged holdings)
    (view? : Descriptor → Option α)
    (of : TagLibrary → List α)
    (ofLoose : ∀ descriptor, descriptor.IsLoose → view? descriptor = none)
    (ofLibrary : ∀ library, view? (.library library) = none)
    (ofMembers : ∀ library : TagLibrary, library.members.filterMap view? = of library) :
    holdings.filterMap (view? ·.element) =
      (holdings.filterMap (·.element.library?)).flatMap of := by
  induction arranged with
  | nil => rfl
  | @loose holding rest isLoose unowned _ inductionHypothesis =>
      simp only [List.filterMap_cons, ofLoose _ isLoose, isLoose.library?_eq_none,
        inductionHypothesis]
  | @group id library members rest elements owned _ inductionHypothesis =>
      have ofGroup : members.filterMap (view? ·.element) = of library := by
        rw [← ofMembers library, ← elements, List.filterMap_map]
        rfl
      have noLibraries : members.filterMap (·.element.library?) = [] := by
        rw [List.filterMap_eq_nil_iff]
        intro member listed
        have inLibrary := List.mem_map_of_mem (f := (·.element)) listed
        rw [elements] at inLibrary
        exact TagLibrary.library?_of_mem_members inLibrary
      have isLibrary : (Descriptor.library library).library? = some library := rfl
      simp only [List.filterMap_cons, ofLibrary, isLibrary, List.filterMap_append, ofGroup,
        noLibraries, List.nil_append, List.flatMap_cons, inductionHypothesis]

end Arranged
/-! ## Sound registries -/

/-- The registry is steady, and its libraries and their members are arranged,
each uri once. -/
structure Sound (registry : Registry) : Prop where
  consistent : registry.Consistent
  steady : ∀ item ∈ registry.entries, item.2.IsSteady
  arranged : Arranged registry.holdings
  uris : (registry.libraries.map (·.uri)).Nodup

theorem sound_empty : Sound {} :=
  { consistent := consistent_empty
    steady := by simp
    arranged := .nil
    uris := List.Pairwise.nil }

/-- The identity was used, and what it stands for, if anything, belongs to
nothing. -/
structure IsRoot (registry : Registry) (id : EntryId) : Prop where
  used : id.value < registry.nextId
  unowned : ∀ item ∈ registry.entries, item.1 = id → item.2.owner = none

/-- A root stays a root. -/
theorem IsRoot.keeps
    {before after : Registry}
    {id : EntryId}
    (isRoot : before.IsRoot id)
    (steady : ∀ item ∈ before.entries, item.2.IsSteady)
    (keeps : Keeps before after) :
    after.IsRoot id :=
  { used := Nat.lt_of_lt_of_le isRoot.used keeps.nextId_le
    unowned := by
      rintro item member rfl
      obtain ⟨old, oldMember, -, kept⟩ := keeps.known item member isRoot.used
      have sameOwner := congrArg Entry.owner (kept (steady _ oldMember))
      exact sameOwner.trans (isRoot.unowned _ oldMember rfl) }

namespace Sound

variable {registry : Registry}

/-- In a sound registry the flat views agree with the libraries. -/
theorem views
    (sound : registry.Sound) :
    registry.functions = registry.libraries.flatMap (·.functions) ∧
      registry.tags = registry.libraries.flatMap (·.tags) := by
  have flat {α : Type} (view? : Descriptor → Option α) :=
    registry.filterMap_holdings view?
  unfold functions tags libraries
  rw [← flat Descriptor.function?, ← flat Descriptor.tag?, ← flat Descriptor.library?]
  constructor
  · apply sound.arranged.filterMap_eq_flatMap
    · intro descriptor isLoose
      exact isLoose.function?_eq_none
    · intro library
      rfl
    · exact TagLibrary.filterMap_function?_members
  · apply sound.arranged.filterMap_eq_flatMap
    · intro descriptor isLoose
      exact isLoose.tag?_eq_none
    · intro library
      rfl
    · exact TagLibrary.filterMap_tag?_members

/-- Reading does not disturb a sound registry. -/
theorem refreshed
    {after : Registry}
    {ids : List EntryId}
    (sound : registry.Sound)
    (consistent : after.Consistent)
    (refreshed : Refreshed ids registry after) :
    after.Sound := by
  have sameHoldings := refreshed.holdings_eq
  refine
    { consistent
      steady := ?_
      arranged := by
        rw [sameHoldings]
        exact sound.arranged
      uris := ?_ }
  · intro item member
    have listed : (item.1, item.2.timeless) ∈ registry.timeless := by
      rw [← refreshed.timeless]
      exact List.mem_map_of_mem (f := fun item => (item.1, item.2.timeless)) member
    obtain ⟨old, oldMember, oldEq⟩ := List.mem_map.mp listed
    exact (sound.steady old oldMember).congr (Prod.ext_iff.mp oldEq).2.symm
  · have sameLibraries : after.libraries = registry.libraries := by
      rw [libraries, libraries, ← after.filterMap_holdings, ← registry.filterMap_holdings,
        sameHoldings]
    rw [sameLibraries]
    exact sound.uris

theorem get
    (sound : registry.Sound)
    (now : Time)
    (id : EntryId) :
    (registry.get now id).2.Sound := by
  have steady : ∀ entry, registry.entry? id = some entry → entry.IsSteady := by
    intro entry found
    exact sound.steady _ (mem_of_entry?_eq_some found)
  obtain ⟨-, refreshed⟩ := sound.consistent.get_of_steady now steady
  exact sound.refreshed (sound.consistent.evolves_get now id).consistent refreshed

theorem query
    (sound : registry.Sound)
    (now : Time)
    (query : Query) :
    (registry.query now query).2.Sound := by
  obtain ⟨-, refreshed⟩ := sound.consistent.query_of_steady now query
    fun item member _ => sound.steady item member
  exact sound.refreshed (sound.consistent.evolves_readAll now query _).consistent refreshed

/-- Removing roots takes out whole groups. -/
theorem removeAll
    (sound : registry.Sound)
    (roots : List EntryId)
    (areRoots : ∀ id ∈ roots, registry.IsRoot id) :
    (registry.removeAll roots).Sound := by
  have consistent := (sound.consistent.evolves_removeAll roots).consistent
  obtain ⟨all, equal, falling⟩ := sound.consistent.removeAll_eq_without_falling roots
  rw [equal] at consistent ⊢
  have together : ∀ item ∈ registry.entries, ∀ owner, item.2.owner = some owner →
      (item.1 ∈ all ↔ owner ∈ all) := by
    intro item member owner owned
    rw [falling, falling]
    refine ⟨?_, Falls.owned member owned⟩
    intro falls
    generalize idEq : item.1 = id at falls
    cases falls with
    | root listed _ =>
        have unowned := (areRoots _ listed).unowned item member idEq
        rw [owned] at unowned
        cases unowned
    | @owned other parent otherMember belongs parentFalls =>
        have sameEntry : item = other :=
          List.inj_on_of_nodup_map sound.consistent.nodup_ids member otherMember idEq
        rw [← sameEntry, owned] at belongs
        cases belongs
        exact parentFalls
  exact
    { consistent
      steady := fun item member => sound.steady item (List.mem_of_mem_filter member)
      arranged := by
        rw [holdings_without]
        apply sound.arranged.filter
        intro holding member
        obtain ⟨item, itemMember, rfl⟩ := List.mem_map.mp member
        exact together item itemMember
      uris := by
        have fewer : (registry.without all).libraries.Sublist registry.libraries :=
          List.filter_sublist.filterMap _
        exact sound.uris.sublist (fewer.map _) }

/-- Adding something that has nothing to do with libraries. -/
theorem add
    (sound : registry.Sound)
    (now : Time)
    {element : Descriptor}
    (isLoose : element.IsLoose)
    {lifetime : Option Lifetime}
    (spent : ∀ life, lifetime = some life → life.plan = []) :
    (registry.add now element none lifetime).2.Sound := by
  have consistent := (sound.consistent.evolves_add now element none lifetime).consistent
  refine
    { consistent
      steady := ?_
      arranged := ?_
      uris := ?_ }
  · intro item member
    rcases List.mem_append.mp member with old | new
    · exact sound.steady item old
    · rw [List.mem_singleton.mp new]
      exact spent
  · rw [holdings_add]
    exact sound.arranged.append (.loose isLoose rfl .nil)
  · have sameLibraries : (registry.add now element none lifetime).2.libraries =
        registry.libraries := by
      simp [libraries, Registry.add, isLoose.library?_eq_none]
    rw [sameLibraries]
    exact sound.uris

theorem addAll
    (sound : registry.Sound)
    (now : Time)
    (elements : List Descriptor)
    (areLoose : ∀ element ∈ elements, element.IsLoose) :
    (registry.addAll now none elements).Sound := by
  induction elements generalizing registry with
  | nil => exact sound
  | cons element rest inductionHypothesis =>
      have added : (registry.add now element).2.Sound :=
        sound.add now (areLoose element List.mem_cons_self) (by simp)
      apply inductionHypothesis added
      intro other member
      exact areLoose other (List.mem_cons_of_mem _ member)

end Sound

/-! ## Registering a library -/

/-- Static entries of one owner, numbered from a number on. -/
def numbered
    (now : Time)
    (owner : Option EntryId)
    (elements : List Descriptor)
    (first : Nat) : List (EntryId × Entry) :=
  (elements.zipIdx first).map fun item =>
    (⟨item.2⟩, { element := item.1, lifetime := none, lastChanged := now, owner })

theorem map_element_numbered
    (now : Time)
    (owner : Option EntryId)
    (elements : List Descriptor)
    (first : Nat) :
    (numbered now owner elements first).map (·.2.element) = elements := by
  rw [numbered, List.map_map]
  exact List.zipIdx_map_fst first elements

theorem eq_of_mem_numbered
    {now : Time}
    {owner : Option EntryId}
    {elements : List Descriptor}
    {first : Nat}
    {item : EntryId × Entry}
    (member : item ∈ numbered now owner elements first) :
    item.2.owner = owner ∧ item.2.lifetime = none := by
  obtain ⟨numberedElement, -, rfl⟩ := List.mem_map.mp member
  exact ⟨rfl, rfl⟩

/-- What is added under one owner stands behind everything else. -/
theorem entries_addAll
    (registry : Registry)
    (now : Time)
    (owner : Option EntryId)
    (elements : List Descriptor) :
    (registry.addAll now owner elements).entries =
      registry.entries ++ numbered now owner elements registry.nextId := by
  induction elements generalizing registry with
  | nil => simp [addAll, numbered]
  | cons element rest inductionHypothesis =>
      have later := inductionHypothesis (registry.add now element owner).2
      simp only [add, List.append_assoc] at later
      exact later

theorem exists_entries_addAll
    (registry : Registry)
    (now : Time)
    (owner : Option EntryId)
    (elements : List Descriptor) :
    ∃ members, (registry.addAll now owner elements).entries = registry.entries ++ members ∧
      members.map (·.2.element) = elements ∧
      ∀ member ∈ members, member.2.owner = owner ∧ member.2.lifetime = none :=
  ⟨_, registry.entries_addAll now owner elements, map_element_numbered ..,
    fun _ member => eq_of_mem_numbered member⟩

/-- The query for the libraries with a uri selects those. -/
theorem selects_sameUri_iff
    (uri : String)
    (descriptor : Descriptor) :
    Query.selects
        { kind := some .library, rules := [{ property := "uri", values := [uri] }] }
        descriptor = true ↔
      ∃ library, descriptor = .library library ∧ library.uri = uri := by
  cases descriptor <;>
    simp [Query.selects, FilterRule.accepts, Descriptor.kind, Descriptor.property?,
      Descriptor.ownProperty]

namespace Sound

variable {registry : Registry}

theorem isRoot_of_library
    (sound : registry.Sound)
    {item : EntryId × Entry}
    (member : item ∈ registry.entries)
    {library : TagLibrary}
    (isLibrary : item.2.element = .library library) :
    registry.IsRoot item.1 :=
  { used := sound.consistent.below item member
    unowned := by
      intro other otherMember sameId
      obtain rfl : other = item :=
        List.inj_on_of_nodup_map sound.consistent.nodup_ids otherMember member sameId
      have listed : (⟨other.1, other.2.element, other.2.owner⟩ : Holding) ∈ registry.holdings :=
        List.mem_map_of_mem otherMember
      exact sound.arranged.owner_of_library listed isLibrary }

/-- A library with a new uri makes a group at the end. -/
theorem addGroup
    (sound : registry.Sound)
    (now : Time)
    (library : TagLibrary)
    (newUri : ∀ other ∈ registry.libraries, other.uri ≠ library.uri) :
    ((registry.add now (.library library)).2.addAll now (some ⟨registry.nextId⟩)
      library.members).Sound := by
  have added : (registry.add now (.library library)).2.Consistent :=
    (sound.consistent.evolves_add now (.library library) none none).consistent
  have ownerThere : ⟨registry.nextId⟩ ∈ (registry.add now (.library library)).2.ids := by
    rw [ids_add]
    exact List.mem_append_right _ List.mem_cons_self
  have consistent :=
    (added.evolves_addAll now ⟨registry.nextId⟩ ownerThere library.members).consistent
  obtain ⟨members, entriesEq, elements, owned⟩ := exists_entries_addAll
    (registry.add now (.library library)).2 now (some ⟨registry.nextId⟩) library.members
  have allEntries : ((registry.add now (.library library)).2.addAll now
      (some ⟨registry.nextId⟩) library.members).entries =
        registry.entries ++ (⟨registry.nextId⟩, ⟨.library library, none, now, none⟩) :: members := by
    rw [entriesEq]
    simp [Registry.add]
  refine
    { consistent
      steady := ?_
      arranged := ?_
      uris := ?_ }
  · intro item member lifetime life
    rw [allEntries] at member
    rcases List.mem_append.mp member with old | new
    · exact sound.steady item old lifetime life
    rcases List.mem_cons.mp new with rfl | inGroup
    · cases life
    · rw [(owned item inGroup).2] at life
      cases life
  · rw [holdings, allEntries, List.map_append, List.map_cons, ← List.append_nil (List.map _ members)]
    refine sound.arranged.append (.group ?_ ?_ .nil)
    · rw [List.map_map]
      exact elements
    · intro holding listed
      obtain ⟨member, inGroup, rfl⟩ := List.mem_map.mp listed
      exact (owned member inGroup).1
  · have noLibraries : members.filterMap (·.2.element.library?) = [] := by
      rw [List.filterMap_eq_nil_iff]
      intro member inGroup
      have listed := List.mem_map_of_mem (f := (·.2.element)) inGroup
      rw [elements] at listed
      exact TagLibrary.library?_of_mem_members listed
    have isLibrary : (Descriptor.library library).library? = some library := rfl
    rw [libraries, allEntries, List.filterMap_append, List.filterMap_cons, isLibrary, noLibraries,
      List.map_append, List.nodup_append]
    refine ⟨sound.uris, List.nodup_singleton _, ?_⟩
    rintro uri listed other otherEq rfl
    obtain ⟨known, member, sameUri⟩ := List.mem_map.mp listed
    exact newUri known member (sameUri.trans (List.mem_singleton.mp otherEq))

/-- Registering a library replaces the group with the same uri by a new one at
the end. -/
theorem importLibrary
    (sound : registry.Sound)
    (now : Time)
    (library : TagLibrary) :
    (registry.importLibrary now library).2.Sound := by
  let sameUri : Query :=
    { kind := some .library
      rules := [{ property := "uri", values := [library.uri] }] }
  obtain ⟨foundEq, refreshed⟩ := sound.consistent.query_of_steady now sameUri
    fun item member _ => sound.steady item member
  let queried := (registry.query now sameUri).2
  let roots := (registry.query now sameUri).1.map (·.1)
  have rootsEq : roots = (registry.entries.filter (sameUri.selects ·.2.element)).map (·.1) := by
    simp only [roots, foundEq, List.map_map]
    rfl
  have soundQueried : queried.Sound := sound.query now sameUri
  have areRoots : ∀ id ∈ roots, queried.IsRoot id := by
    intro id listed
    rw [rootsEq] at listed
    obtain ⟨item, member, rfl⟩ := List.mem_map.mp listed
    obtain ⟨itemMember, selected⟩ := List.mem_filter.mp member
    obtain ⟨known, isLibrary, -⟩ := (selects_sameUri_iff library.uri _).mp selected
    exact (sound.isRoot_of_library itemMember isLibrary).keeps sound.steady
      (sound.consistent.keeps_readAll now sameUri _)
  have soundRemoved := soundQueried.removeAll roots areRoots
  refine soundRemoved.addGroup now library ?_
  -- A library with the uri would have been found, and so would have gone.
  intro other listed sameUriOther
  obtain ⟨all, equal, falling⟩ := soundQueried.consistent.removeAll_eq_without_falling roots
  rw [equal, libraries, List.mem_filterMap] at listed
  obtain ⟨item, member, isLibrary⟩ := listed
  obtain ⟨itemMember, stays⟩ := List.mem_filter.mp member
  rw [Descriptor.library?_eq_some_iff] at isLibrary
  have listed : (⟨item.1, item.2.element, item.2.owner⟩ : Holding) ∈ registry.holdings := by
    rw [← refreshed.holdings_eq]
    exact List.mem_map_of_mem itemMember
  obtain ⟨old, oldMember, oldEq⟩ := List.mem_map.mp listed
  obtain ⟨sameId, sameElement, -⟩ := Holding.mk.inj oldEq
  have selected : sameUri.selects old.2.element = true :=
    (selects_sameUri_iff library.uri _).mpr ⟨other, sameElement.trans isLibrary, sameUriOther⟩
  have found : item.1 ∈ roots := by
    rw [rootsEq, ← sameId]
    exact List.mem_map_of_mem (List.mem_filter.mpr ⟨oldMember, selected⟩)
  have goes : item.1 ∈ all :=
    (falling item.1).mpr (Falls.root found (List.mem_map_of_mem itemMember))
  exact absurd goes (of_decide_eq_true stays)

end Sound
end Registry
end JspCompletion
