import JspCompletion.Proofs.Registry.Entries

/-!
# Consistent registries

A registry is consistent when its identities increase and stay below the next
one, and when each index is what the entries say it should be.  The cascade of
a removal passes through registries in which entries still wait for their turn
while the index by owner has lost them; what it arrives at is consistent
because it takes out a set that is closed under ownership.

Every operation turns a registry into one that evolves from it.  The relation
collects what holds of one operation and, being transitive, of any number.
-/

namespace JspCompletion
namespace Registry

/-! ## What the indexes should hold -/

/-- The kinds of entries. -/
def kindPairs (entries : List (EntryId × Entry)) : List (Kind × EntryId) :=
  entries.map fun item => (item.2.element.kind, item.1)

/-- The owners of entries. -/
def ownerPairs (entries : List (EntryId × Entry)) : List (EntryId × EntryId) :=
  entries.filterMap fun item => item.2.owner.map fun owner => (owner, item.1)

/-- Identities and indexes agree with the entries. -/
structure Consistent (registry : Registry) : Prop where
  /-- Identities increase in order of insertion. -/
  increasing : registry.entries.Pairwise fun left right => left.1.value < right.1.value
  /-- No identity has reached the next one. -/
  below : ∀ item ∈ registry.entries, item.1.value < registry.nextId
  /-- The index by kind lists every entry with its kind. -/
  kinds : registry.kindIndex = kindPairs registry.entries
  /-- The index by owner lists every entry that has an owner. -/
  owners : registry.childIndex = ownerPairs registry.entries

/-- Every owner of an entry is itself an entry. -/
def Housed (registry : Registry) : Prop :=
  ∀ item ∈ registry.entries, ∀ owner, item.2.owner = some owner → owner ∈ registry.ids

/-- The empty registry is consistent. -/
theorem consistent_empty : Consistent {} :=
  { increasing := List.Pairwise.nil
    below := by simp
    kinds := rfl
    owners := rfl }

theorem housed_empty : Housed {} := by
  intro item member
  simp at member

namespace Consistent

variable {registry : Registry}

/-- No identity is used twice. -/
theorem nodup_ids (consistent : registry.Consistent) : registry.ids.Nodup := by
  rw [ids, List.Nodup, List.pairwise_map]
  refine consistent.increasing.imp ?_
  intro left right less equal
  rw [equal] at less
  exact Nat.lt_irrefl _ less

/-- The entry found under an identity is the listed one. -/
theorem entry?_eq_some_iff
    (consistent : registry.Consistent)
    (id : EntryId)
    (entry : Entry) :
    registry.entry? id = some entry ↔ (id, entry) ∈ registry.entries := by
  constructor
  · exact mem_of_entry?_eq_some
  · intro member
    obtain ⟨other, found⟩ :=
      (contains_iff_exists registry id).mp (contains_of_mem member)
    have otherMember := mem_of_entry?_eq_some found
    have equal := List.inj_on_of_nodup_map consistent.nodup_ids member otherMember rfl
    rw [found]
    exact congrArg (fun item => some item.2) equal.symm

/-- The index by kind holds exactly the entries of the kind. -/
theorem mem_ofKind_iff
    (consistent : registry.Consistent)
    (kind : Kind)
    (id : EntryId) :
    id ∈ registry.ofKind kind ↔
      ∃ entry, registry.entry? id = some entry ∧ entry.element.kind = kind := by
  simp only [ofKind, consistent.kinds, kindPairs, consistent.entry?_eq_some_iff,
    List.mem_map, List.mem_filter, beq_iff_eq]
  constructor
  · rintro ⟨_, ⟨⟨item, member, rfl⟩, sameKind⟩, rfl⟩
    exact ⟨item.2, member, sameKind⟩
  · rintro ⟨entry, member, sameKind⟩
    exact ⟨(entry.element.kind, id), ⟨⟨(id, entry), member, rfl⟩, sameKind⟩, rfl⟩

/-- The index by owner holds exactly the entries of the owner. -/
theorem mem_ownedBy_iff
    (consistent : registry.Consistent)
    (owner id : EntryId) :
    id ∈ registry.ownedBy owner ↔
      ∃ entry, registry.entry? id = some entry ∧ entry.owner = some owner := by
  simp only [ownedBy, consistent.owners, ownerPairs, consistent.entry?_eq_some_iff,
    List.mem_map, List.mem_filter, List.mem_filterMap, beq_iff_eq, Option.map_eq_some_iff]
  constructor
  · rintro ⟨_, ⟨⟨item, member, _, owned, rfl⟩, rfl⟩, rfl⟩
    exact ⟨item.2, member, owned⟩
  · rintro ⟨entry, member, owned⟩
    exact ⟨(owner, id), ⟨⟨(id, entry), member, owner, owned, rfl⟩, rfl⟩, rfl⟩

/-- No owner has an entry listed twice. -/
theorem nodup_ownedBy
    (consistent : registry.Consistent)
    (owner : EntryId) :
    (registry.ownedBy owner).Nodup := by
  have listed : (registry.ownedBy owner).Sublist registry.ids := by
    rw [ownedBy, consistent.owners, ids]
    refine (List.filter_sublist.map _).trans ?_
    rw [ownerPairs]
    induction registry.entries with
    | nil => exact List.Sublist.slnil
    | cons item rest inductionHypothesis =>
        cases owned : item.2.owner with
        | none => simpa [owned] using inductionHypothesis.cons item.1
        | some owner => simpa [owned] using inductionHypothesis
  exact consistent.nodup_ids.sublist listed

/-- Every identity in use lies below the next one. -/
theorem value_lt_nextId
    (consistent : registry.Consistent)
    {id : EntryId}
    (member : id ∈ registry.ids) :
    id.value < registry.nextId := by
  obtain ⟨item, itemMember, rfl⟩ := List.mem_map.mp member
  exact consistent.below item itemMember

/-- An added entry is found, and all else as before. -/
theorem entry?_add
    (consistent : registry.Consistent)
    (now : Time)
    (element : Descriptor)
    (owner : Option EntryId)
    (lifetime : Option Lifetime)
    (id : EntryId) :
    entry? (registry.add now element owner lifetime).2 id =
      if id = ⟨registry.nextId⟩ then some { element, lifetime, lastChanged := now, owner }
      else registry.entry? id := by
  simp only [add, entry?, List.find?_append]
  by_cases new : id = ⟨registry.nextId⟩
  · have unused : registry.entries.find? (·.1 == id) = none := by
      rw [List.find?_eq_none]
      intro item member same
      have below := consistent.below item member
      rw [beq_iff_eq.mp same, new] at below
      exact Nat.lt_irrefl _ below
    rw [unused]
    simp [new]
  · simp [new, Ne.symm new]

/-! ## Removal -/

/-- Taking out a set that is closed under ownership leaves the indexes exact. -/
theorem without
    (consistent : registry.Consistent)
    {removed : List EntryId}
    (closed : registry.ClosedUnderOwnership removed) :
    (registry.without removed).Consistent :=
  { increasing := consistent.increasing.filter _
    below := by
      intro item member
      exact consistent.below item (List.mem_of_mem_filter member)
    kinds := by
      simp only [Registry.without, consistent.kinds, kindPairs, List.filter_map]
      rfl
    owners := by
      simp only [Registry.without, consistent.owners, ownerPairs, List.filter_filterMap,
        List.filterMap_filter]
      apply List.filterMap_congr
      intro item member
      cases owned : item.2.owner with
      | none => simp
      | some owner =>
          by_cases gone : item.1 ∈ removed
          · simp [gone]
          · have ownerStays : owner ∉ removed := by
              intro ownerGone
              exact gone (closed item member owner ownerGone owned)
            simp [gone, ownerStays] }

/-- The entries that belong to an identity after others were taken out. -/
theorem mem_ownedBy_without_iff
    (consistent : registry.Consistent)
    (removed : List EntryId)
    (owner id : EntryId) :
    id ∈ (registry.without removed).ownedBy owner ↔
      owner ∉ removed ∧ id ∉ removed ∧
        ∃ entry, (id, entry) ∈ registry.entries ∧ entry.owner = some owner := by
  have listed := consistent.mem_ownedBy_iff owner id
  simp only [consistent.entry?_eq_some_iff] at listed
  rw [← listed]
  simp only [ownedBy, Registry.without, List.mem_map, List.mem_filter, beq_iff_eq,
    decide_eq_true_eq]
  constructor
  · rintro ⟨pair, ⟨⟨member, ownerStays, stays⟩, rfl⟩, rfl⟩
    exact ⟨ownerStays, stays, pair, ⟨member, rfl⟩, rfl⟩
  · rintro ⟨ownerStays, stays, pair, ⟨member, rfl⟩, rfl⟩
    exact ⟨pair, ⟨⟨member, ownerStays, stays⟩, rfl⟩, rfl⟩

end Consistent

/-- The cascade in the middle of its work: what was taken out falls with the
roots, and owns nothing but what was taken out or still waits. -/
structure Cascade
    (registry : Registry)
    (roots removed pending : List EntryId) : Prop where
  fell : ∀ id ∈ removed, registry.Falls roots id
  due : ∀ id ∈ pending, id ∈ roots ∨ registry.Falls roots id
  waits : ∀ item ∈ registry.entries, ∀ owner ∈ removed,
    item.2.owner = some owner → item.1 ∈ removed ∨ item.1 ∈ pending

namespace Cascade

variable {registry : Registry} {roots removed rest : List EntryId} {id : EntryId}

theorem start
    (registry : Registry)
    (roots : List EntryId) :
    registry.Cascade roots [] roots :=
  { fell := by simp
    due := fun _ listed => Or.inl listed
    waits := by simp }

/-- An entry is taken out, and what belongs to it has to wait. -/
theorem take
    (cascade : registry.Cascade roots removed (id :: rest))
    (consistent : registry.Consistent)
    (live : id ∈ (registry.without removed).ids) :
    registry.Cascade roots (id :: removed)
      ((registry.without removed).ownedBy id ++ rest) := by
  obtain ⟨inUse, notRemoved⟩ := (mem_ids_without registry removed id).mp live
  have owned := consistent.mem_ownedBy_without_iff removed id
  have falls : registry.Falls roots id := by
    rcases cascade.due id List.mem_cons_self with listed | falls
    · exact Falls.root listed inUse
    · exact falls
  refine ⟨?_, ?_, ?_⟩
  · intro other member
    rcases List.mem_cons.mp member with rfl | earlier
    · exact falls
    · exact cascade.fell other earlier
  · intro other member
    rcases List.mem_append.mp member with child | later
    · obtain ⟨-, -, entry, listed, belongs⟩ := (owned other).mp child
      exact Or.inr (Falls.owned listed belongs falls)
    · exact cascade.due other (List.mem_cons_of_mem _ later)
  · intro item member owner ownerRemoved belongs
    rcases List.mem_cons.mp ownerRemoved with rfl | earlier
    · by_cases gone : item.1 ∈ removed
      · exact Or.inl (List.mem_cons_of_mem _ gone)
      · exact Or.inr (List.mem_append_left _
          ((owned item.1).mpr ⟨notRemoved, gone, item.2, member, belongs⟩))
    · rcases cascade.waits item member owner earlier belongs with gone | waiting
      · exact Or.inl (List.mem_cons_of_mem _ gone)
      · rcases List.mem_cons.mp waiting with equal | later
        · exact Or.inl (List.mem_cons.mpr (Or.inl equal))
        · exact Or.inr (List.mem_append_right _ later)

/-- An identity that is passed over has no entry, or went before. -/
theorem pass
    (cascade : registry.Cascade roots removed (id :: rest))
    (passed : id ∈ registry.ids → id ∈ removed) :
    registry.Cascade roots removed rest := by
  refine ⟨cascade.fell, fun other member => cascade.due other (List.mem_cons_of_mem _ member), ?_⟩
  intro item member owner ownerRemoved belongs
  rcases cascade.waits item member owner ownerRemoved belongs with gone | waiting
  · exact Or.inl gone
  · rcases List.mem_cons.mp waiting with equal | later
    · left
      rw [equal]
      exact passed (equal ▸ List.mem_map_of_mem member)
    · exact Or.inr later

end Cascade

namespace Consistent

variable {registry : Registry}

/-- The cascade arrives at a set that is closed under ownership and falls with
the roots. -/
theorem exists_removeAll_without
    (consistent : registry.Consistent)
    {roots removed pending : List EntryId}
    (cascade : registry.Cascade roots removed pending) :
    ∃ all, (registry.without removed).removeAll pending = registry.without all ∧
      registry.ClosedUnderOwnership all ∧ (∀ id ∈ all, registry.Falls roots id) ∧
      removed ⊆ all ∧ ∀ id ∈ pending, id ∈ registry.ids → id ∈ all := by
  generalize currentEq : registry.without removed = current
  induction current, pending using removeAll.induct generalizing removed with
  | case1 current =>
      refine ⟨removed, ?_, ?_, cascade.fell, List.Subset.refl _, by simp⟩
      · rw [removeAll, currentEq]
      · intro item member owner ownerRemoved owned
        simpa using cascade.waits item member owner ownerRemoved owned
  | case2 current id rest live inductionHypothesis =>
      subst currentEq
      obtain ⟨all, equal, closed, allFall, takesRemoved, takesPending⟩ :=
        inductionHypothesis (cascade.take consistent ((contains_iff_mem_ids _ id).mp live))
          (erase_without registry id removed).symm
      rw [removeAll, if_pos live]
      refine ⟨all, equal, closed, allFall, List.Subset.trans (List.subset_cons_self _ _) takesRemoved, ?_⟩
      intro other member known
      rcases List.mem_cons.mp member with rfl | later
      · exact takesRemoved List.mem_cons_self
      · exact takesPending other (List.mem_append_right _ later) known
  | case3 current id rest notLive inductionHypothesis =>
      subst currentEq
      have passed : id ∈ registry.ids → id ∈ removed := by
        intro known
        by_contra stays
        apply notLive
        rw [contains_iff_mem_ids, mem_ids_without]
        exact ⟨known, stays⟩
      obtain ⟨all, equal, closed, allFall, takesRemoved, takesPending⟩ :=
        inductionHypothesis (cascade.pass passed) rfl
      rw [removeAll, if_neg notLive]
      refine ⟨all, equal, closed, allFall, takesRemoved, ?_⟩
      intro other member known
      rcases List.mem_cons.mp member with rfl | later
      · exact takesRemoved (passed known)
      · exact takesPending other later known

/-- Removing entries takes out exactly what falls with them. -/
theorem removeAll_eq_without_falling
    (consistent : registry.Consistent)
    (roots : List EntryId) :
    ∃ all, registry.removeAll roots = registry.without all ∧
      ∀ id, id ∈ all ↔ registry.Falls roots id := by
  obtain ⟨all, equal, closed, allFall, -, takesRoots⟩ :=
    consistent.exists_removeAll_without (Cascade.start registry roots)
  rw [without_nil] at equal
  refine ⟨all, equal, fun id => ⟨allFall id, ?_⟩⟩
  intro falls
  induction falls with
  | root listed live => exact takesRoots _ listed live
  | owned member belongs _ ownerGoes => exact closed _ member _ ownerGoes belongs

/-- Removing entries with all that belongs to them takes out one set that is
closed under ownership. -/
theorem removeAll_eq_without
    (consistent : registry.Consistent)
    (pending : List EntryId) :
    ∃ all, registry.removeAll pending = registry.without all ∧
      registry.ClosedUnderOwnership all := by
  obtain ⟨all, equal, falling⟩ := consistent.removeAll_eq_without_falling pending
  refine ⟨all, equal, ?_⟩
  intro item member owner ownerGoes belongs
  exact (falling item.1).mpr (Falls.owned member belongs ((falling owner).mp ownerGoes))

end Consistent

/-! ## What every operation does -/

/-- A registry as it may become.  Where owners are there when entries are put
under them, no entry is left without its owner. -/
structure Evolves (ownersThere : Prop) (before after : Registry) : Prop where
  /-- The indexes stay exact. -/
  consistent : after.Consistent
  /-- Owners stay as long as what they own. -/
  housed : ownersThere → before.Housed → after.Housed
  /-- The next identity never moves back. -/
  nextId_le : before.nextId ≤ after.nextId
  /-- Identities that come into use were not used before. -/
  fresh : ∀ id ∈ after.ids, id ∈ before.ids ∨ before.nextId ≤ id.value

namespace Evolves

theorem refl
    {registry : Registry}
    (consistent : registry.Consistent) :
    Evolves True registry registry :=
  { consistent
    housed := fun _ housed => housed
    nextId_le := Nat.le_refl _
    fresh := fun _ member => Or.inl member }

theorem trans
    {firstThere secondThere : Prop}
    {before between after : Registry}
    (first : Evolves firstThere before between)
    (second : Evolves secondThere between after) :
    Evolves (firstThere ∧ secondThere) before after :=
  { consistent := second.consistent
    housed := fun there housed => second.housed there.2 (first.housed there.1 housed)
    nextId_le := Nat.le_trans first.nextId_le second.nextId_le
    fresh := by
      intro id member
      rcases second.fresh id member with known | new
      · exact first.fresh id known
      · exact Or.inr (Nat.le_trans first.nextId_le new) }

/-- A weaker promise about owners. -/
theorem imp
    {there promised : Prop}
    {before after : Registry}
    (evolves : Evolves there before after)
    (implies : promised → there) :
    Evolves promised before after :=
  { evolves with housed := fun promise => evolves.housed (implies promise) }

/-- Steps that put nothing under an owner compose. -/
theorem andThen
    {before between after : Registry}
    (first : Evolves True before between)
    (second : Evolves True between after) :
    Evolves True before after :=
  (first.trans second).imp fun _ => ⟨trivial, trivial⟩

/-- An identity that was given out and is gone does not come back. -/
theorem not_mem_ids
    {ownersThere : Prop}
    {before after : Registry}
    (evolves : Evolves ownersThere before after)
    {id : EntryId}
    (used : id.value < before.nextId)
    (gone : id ∉ before.ids) :
    id ∉ after.ids := by
  intro back
  rcases evolves.fresh id back with known | new
  · exact gone known
  · exact Nat.not_lt_of_le new used

end Evolves

/-- Removal leaves no entry behind whose owner went. -/
theorem Consistent.evolves_removeAll
    {registry : Registry}
    (consistent : registry.Consistent)
    (pending : List EntryId) :
    Evolves True registry (registry.removeAll pending) := by
  obtain ⟨removed, equal, closed⟩ := consistent.removeAll_eq_without pending
  rw [equal]
  exact
    { consistent := consistent.without closed
      housed := by
        intro _ housed item member owner owned
        have stays : item.1 ∉ removed := by simpa using (List.mem_filter.mp member).2
        have known := List.mem_of_mem_filter member
        rw [mem_ids_without]
        refine ⟨housed item known owner owned, ?_⟩
        intro ownerGone
        exact stays (closed item known owner ownerGone owned)
      nextId_le := Nat.le_refl _
      fresh := by
        intro id member
        exact Or.inl ((mem_ids_without registry removed id).mp member).1 }

/-- A removal leaves nothing that was not there. -/
theorem Consistent.entry?_of_entry?_removeAll
    {registry : Registry}
    (consistent : registry.Consistent)
    {roots : List EntryId}
    {id : EntryId}
    {entry : Entry}
    (found : entry? (registry.removeAll roots) id = some entry) :
    registry.entry? id = some entry := by
  obtain ⟨all, equal, -⟩ := consistent.removeAll_eq_without roots
  rw [equal, entry?_without] at found
  split at found
  · cases found
  · exact found

/-- A change of an entry in place that says nothing new about its owner, with
the index by kind brought in line. -/
theorem Consistent.evolves_update
    {registry after : Registry}
    (consistent : registry.Consistent)
    (id : EntryId)
    (change : Entry → Entry)
    (sameOwner : ∀ entry, (change entry).owner = entry.owner)
    (entries : after.entries = (registry.update id change).entries)
    (kinds : after.kindIndex = kindPairs after.entries)
    (owners : after.childIndex = registry.childIndex)
    (nextId : after.nextId = registry.nextId) :
    Evolves True registry after := by
  have sameIds : after.ids = registry.ids := by
    rw [ids, entries]
    exact ids_update registry id change
  have keepsOwner (item : EntryId × Entry) :
      ((if item.1 == id then (item.1, change item.2) else item).1 = item.1) ∧
        (if item.1 == id then (item.1, change item.2) else item).2.owner = item.2.owner := by
    split <;> simp [sameOwner]
  exact
    { consistent :=
        { increasing := by
            have increasing := consistent.increasing
            rw [← List.pairwise_map (f := Prod.fst)
              (R := fun left right : EntryId => left.value < right.value)] at increasing ⊢
            change List.Pairwise _ after.ids
            rwa [sameIds]
          below := by
            intro item member
            rw [nextId]
            apply consistent.value_lt_nextId
            rw [← sameIds]
            exact List.mem_map_of_mem member
          kinds
          owners := by
            rw [owners, consistent.owners, entries, ownerPairs, ownerPairs, update,
              List.filterMap_map]
            apply List.filterMap_congr
            intro item _
            simp only [Function.comp_apply, keepsOwner] }
      housed := by
        intro _ housed item member owner owned
        rw [entries, update, List.mem_map] at member
        obtain ⟨old, oldMember, rfl⟩ := member
        rw [(keepsOwner old).2] at owned
        rw [sameIds]
        exact housed old oldMember owner owned
      nextId_le := Nat.le_of_eq nextId.symm
      fresh := by
        intro other member
        exact Or.inl (sameIds ▸ member) }

/-- Asking a plan uses up a decision and changes nothing else. -/
theorem Consistent.evolves_ask
    {registry : Registry}
    (consistent : registry.Consistent)
    (now : Time)
    (id : EntryId) :
    Evolves True registry (registry.ask now id) := by
  refine consistent.evolves_update id
    (fun entry => { entry with lifetime := entry.lifetime.map (·.next) })
    (fun _ => rfl) rfl ?_ rfl rfl
  simp only [ask, update, consistent.kinds, kindPairs, List.map_map]
  apply List.map_congr_left
  intro item _
  simp only [Function.comp_apply]
  split <;> rfl

/-- Carrying out a decision keeps the indexes exact, also where it changes the
kind of the entry. -/
theorem Consistent.evolves_decide
    {registry : Registry}
    (consistent : registry.Consistent)
    (now : Time)
    (id : EntryId)
    (element : Descriptor)
    (decision : Refresh) :
    Evolves True registry (registry.decide now id element decision).2 := by
  cases decision with
  | keep =>
      refine consistent.evolves_update id (fun entry => { entry with lastChanged := now })
        (fun _ => rfl) rfl ?_ rfl rfl
      simp only [decide, update, consistent.kinds, kindPairs, List.map_map]
      apply List.map_congr_left
      intro item _
      simp only [Function.comp_apply]
      split <;> rfl
  | replace element =>
      refine consistent.evolves_update id
        (fun entry => { entry with element, lastChanged := now }) (fun _ => rfl) rfl ?_ rfl rfl
      simp only [decide, reindex, update, consistent.kinds, kindPairs, List.map_map]
      apply List.map_congr_left
      intro item _
      simp only [Function.comp_apply]
      split <;> rfl
  | remove => exact consistent.evolves_removeAll [id]

/-- Reading an entry. -/
theorem Consistent.evolves_get
    {registry : Registry}
    (consistent : registry.Consistent)
    (now : Time)
    (id : EntryId) :
    Evolves True registry (registry.get now id).2 := by
  rw [get]
  split
  · exact Evolves.refl consistent
  · split
    · have asked := consistent.evolves_ask now id
      exact asked.andThen (asked.consistent.evolves_decide now id _ _)
    · exact Evolves.refl consistent

/-- What reading leaves behind does not depend on what is selected. -/
theorem readAll_cons_registry
    (registry : Registry)
    (now : Time)
    (query : Query)
    (id : EntryId)
    (rest : List EntryId) :
    (registry.readAll now query (id :: rest)).2 =
      ((registry.get now id).2.readAll now query rest).2 := by
  rw [readAll]
  rcases registry.get now id with ⟨element, read⟩
  rcases readEq : read.readAll now query rest with ⟨found, after⟩
  cases element with
  | none => simp [readEq]
  | some element =>
      simp only [readEq]
      split <;> rfl

/-- Reading entries one after the other. -/
theorem Consistent.evolves_readAll
    {registry : Registry}
    (consistent : registry.Consistent)
    (now : Time)
    (query : Query)
    (candidates : List EntryId) :
    Evolves True registry (registry.readAll now query candidates).2 := by
  induction candidates generalizing registry with
  | nil => exact Evolves.refl consistent
  | cons id rest inductionHypothesis =>
      have read := consistent.evolves_get now id
      have others := inductionHypothesis read.consistent
      rw [readAll_cons_registry]
      exact read.andThen others

/-- Inserting an entry, under an owner that should be there. -/
theorem Consistent.evolves_add
    {registry : Registry}
    (consistent : registry.Consistent)
    (now : Time)
    (element : Descriptor)
    (owner : Option EntryId)
    (lifetime : Option Lifetime) :
    Evolves (∀ parent, owner = some parent → parent ∈ registry.ids)
      registry (registry.add now element owner lifetime).2 :=
  { consistent :=
      { increasing := by
          simp only [add, List.pairwise_append]
          refine ⟨consistent.increasing, List.pairwise_singleton _ _, ?_⟩
          intro old member new newMember
          rw [List.mem_singleton.mp newMember]
          exact consistent.below old member
        below := by
          intro item member
          rcases List.mem_append.mp member with old | new
          · exact Nat.lt_succ_of_lt (consistent.below item old)
          · rw [List.mem_singleton.mp new]
            exact Nat.lt_succ_self _
        kinds := by
          simp [add, kindPairs, consistent.kinds]
        owners := by
          cases owner <;> simp [add, ownerPairs, consistent.owners] }
    housed := by
      intro there housed item member parent owned
      rw [ids_add]
      apply List.mem_append_left
      rcases List.mem_append.mp member with old | new
      · exact housed item old parent owned
      · rw [List.mem_singleton.mp new] at owned
        exact there parent owned
    nextId_le := Nat.le_succ _
    fresh := by
      intro id member
      obtain ⟨item, itemMember, rfl⟩ := List.mem_map.mp member
      rcases List.mem_append.mp itemMember with old | new
      · exact Or.inl (List.mem_map_of_mem old)
      · rw [List.mem_singleton.mp new]
        exact Or.inr (Nat.le_refl _) }

end Registry
end JspCompletion
