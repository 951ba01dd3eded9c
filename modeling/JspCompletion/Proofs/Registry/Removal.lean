import JspCompletion.Proofs.Registry.Run

/-!
# What a removal takes out

`RemovesEach` says how a removal goes about its work, with no bound on how deep
it goes: an entry leaves the list of entries, the index of its kind and the list
of its owner, the list of what belongs to it is taken away, and each entry of
that list is removed in the same way before the next one is looked at.  Nested
removals that find no entry are passed over.

The main result says that this rule comes to an end in every registry that can
be reached, whatever belongs to what, that its outcome is the one of `remove`,
and that exactly the entry and what is connected to it by owners is gone.
Entries may name owners that are gone, that come later, or themselves.
-/

namespace JspCompletion
namespace Registry

/-! ## Nested removals -/

/-- The registry without an entry, without its place in the index of its kind,
and without its place in the list of its owner. -/
def unlink (registry : Registry) (id : EntryId) (entry : Entry) : Registry :=
  { registry with
    entries := registry.entries.filter (·.1 != id)
    kindIndex := registry.kindIndex.filter (· != (entry.element.kind, id))
    childIndex :=
      registry.childIndex.filter fun pair => some pair.1 != entry.owner || pair.2 != id }

/-- The registry without the list of what belongs to an identity. -/
def disown (registry : Registry) (id : EntryId) : Registry :=
  { registry with childIndex := registry.childIndex.filter (·.1 != id) }

/-- Removing identities one after the other comes to an end in a registry. -/
inductive RemovesEach : Registry → List EntryId → Registry → Prop
  | done (registry : Registry) : RemovesEach registry [] registry
  /-- There is no such entry, and the refusal is passed over. -/
  | refused
      {registry after : Registry}
      {id : EntryId}
      {rest : List EntryId}
      (missing : registry.entry? id = none)
      (others : RemovesEach registry rest after) :
      RemovesEach registry (id :: rest) after
  /-- An entry is taken out, then what was listed under it, then the others. -/
  | taken
      {registry between after : Registry}
      {id : EntryId}
      {entry : Entry}
      {rest : List EntryId}
      (found : registry.entry? id = some entry)
      (owned : RemovesEach ((registry.unlink id entry).disown id)
        ((registry.unlink id entry).ownedBy id) between)
      (others : RemovesEach between rest after) :
      RemovesEach registry (id :: rest) after

namespace RemovesEach

variable {registry after : Registry} {ids : List EntryId}

/-- Removals have one outcome only. -/
theorem unique
    {other : Registry}
    (removes : RemovesEach registry ids after)
    (otherRemoves : RemovesEach registry ids other) :
    after = other := by
  induction removes generalizing other with
  | done => cases otherRemoves; rfl
  | refused missing _ inductionHypothesis =>
      cases otherRemoves with
      | refused _ others => exact inductionHypothesis others
      | taken found =>
          rw [missing] at found
          cases found
  | taken found _ _ ownedHypothesis othersHypothesis =>
      cases otherRemoves with
      | refused missing =>
          rw [found] at missing
          cases missing
      | taken otherFound owned others =>
          rw [found] at otherFound
          cases otherFound
          cases ownedHypothesis owned
          exact othersHypothesis others

/-- Removing a list is removing its front part and then the rest. -/
theorem exists_of_append
    {front back : List EntryId}
    (removes : RemovesEach registry (front ++ back) after) :
    ∃ between, RemovesEach registry front between ∧ RemovesEach between back after := by
  induction front generalizing registry with
  | nil => exact ⟨registry, .done registry, removes⟩
  | cons id rest inductionHypothesis =>
      cases removes with
      | refused missing others =>
          obtain ⟨between, first, second⟩ := inductionHypothesis others
          exact ⟨between, .refused missing first, second⟩
      | taken found owned others =>
          obtain ⟨between, first, second⟩ := inductionHypothesis others
          exact ⟨between, .taken found owned first, second⟩

/-- Nothing comes back. -/
theorem entry?_eq_none
    (removes : RemovesEach registry ids after)
    {id : EntryId}
    (missing : registry.entry? id = none) :
    after.entry? id = none := by
  induction removes with
  | done => exact missing
  | refused _ _ inductionHypothesis => exact inductionHypothesis missing
  | @taken registry _ _ other _ _ _ _ _ ownedHypothesis othersHypothesis =>
      apply othersHypothesis
      apply ownedHypothesis
      rw [entry?_eq_none_iff] at missing ⊢
      intro member
      apply missing
      obtain ⟨item, kept, rfl⟩ := List.mem_map.mp member
      exact List.mem_map_of_mem (List.mem_of_mem_filter kept)

/-- An identity without an entry may as well be left out of the list. -/
theorem filter_ne
    (removes : RemovesEach registry ids after)
    {id : EntryId}
    (missing : registry.entry? id = none) :
    RemovesEach registry (ids.filter (· != id)) after := by
  induction removes with
  | done registry => exact .done registry
  | @refused registry after other rest otherMissing others inductionHypothesis =>
      have later := inductionHypothesis missing
      by_cases same : other = id
      · rwa [List.filter_cons_of_neg (by simp [same])]
      · rw [List.filter_cons_of_pos (by simp [same])]
        exact .refused otherMissing later
  | @taken registry between after other entry rest found owned others _ othersHypothesis =>
      have different : other ≠ id := by
        rintro rfl
        rw [missing] at found
        cases found
      have stillMissing : between.entry? id = none :=
        (RemovesEach.taken found owned (.done between)).entry?_eq_none missing
      rw [List.filter_cons_of_pos (by simp [different])]
      exact .taken found owned (othersHypothesis stillMissing)

end RemovesEach

/-! ## Removals and the work list -/

/-- What the indexes say about an entry is what the entry says itself.  Between
nested removals they no longer list all entries, but this they keep. -/
structure IndexesTruly (registry : Registry) : Prop where
  kinds : ∀ pair ∈ registry.kindIndex, ∀ entry,
    registry.entry? pair.2 = some entry → entry.element.kind = pair.1
  owners : ∀ pair ∈ registry.childIndex, ∀ entry,
    registry.entry? pair.2 = some entry → entry.owner = some pair.1

theorem Consistent.indexesTruly
    {registry : Registry}
    (consistent : registry.Consistent) :
    registry.IndexesTruly := by
  constructor
  · intro pair listed entry found
    rw [consistent.kinds, kindPairs] at listed
    obtain ⟨item, member, rfl⟩ := List.mem_map.mp listed
    rw [(consistent.entry?_eq_some_iff item.1 item.2).mpr member] at found
    rw [← Option.some.inj found]
  · intro pair listed entry found
    rw [consistent.owners, ownerPairs] at listed
    obtain ⟨item, member, isPair⟩ := List.mem_filterMap.mp listed
    obtain ⟨owner, owned, rfl⟩ := Option.map_eq_some_iff.mp isPair
    rw [(consistent.entry?_eq_some_iff item.1 item.2).mpr member] at found
    rw [← Option.some.inj found, owned]

theorem erase_eq_without
    (registry : Registry)
    (id : EntryId) :
    registry.erase id = registry.without [id] := by
  rw [← erase_without, without_nil]

namespace IndexesTruly

variable {registry : Registry} {id : EntryId} {entry : Entry}

theorem erase
    (truly : registry.IndexesTruly)
    (id : EntryId) :
    (registry.erase id).IndexesTruly := by
  have foundBefore (other : EntryId) (entry : Entry)
      (found : entry? (registry.erase id) other = some entry) :
      registry.entry? other = some entry := by
    rw [erase_eq_without, entry?_without] at found
    split at found
    · cases found
    · exact found
  constructor
  · intro pair listed entry found
    exact truly.kinds pair (List.mem_of_mem_filter listed) entry (foundBefore _ _ found)
  · intro pair listed entry found
    exact truly.owners pair (List.mem_of_mem_filter listed) entry (foundBefore _ _ found)

/-- An entry leaves the lists that it says it is in, and so all lists. -/
theorem disown_unlink
    (truly : registry.IndexesTruly)
    (found : registry.entry? id = some entry) :
    (registry.unlink id entry).disown id = registry.erase id := by
  have sameKinds : registry.kindIndex.filter (· != (entry.element.kind, id)) =
      registry.kindIndex.filter (·.2 != id) := by
    apply List.filter_congr
    intro pair listed
    by_cases same : pair.2 = id
    · have isKind := truly.kinds pair listed entry (same ▸ found)
      rw [isKind, ← same]
      simp
    · have different : pair ≠ (entry.element.kind, id) := by
        rintro rfl
        exact same rfl
      rw [bne_iff_ne.mpr different, bne_iff_ne.mpr same]
  have sameOwners : (registry.childIndex.filter fun pair =>
        some pair.1 != entry.owner || pair.2 != id).filter (·.1 != id) =
      registry.childIndex.filter fun pair => pair.1 != id && pair.2 != id := by
    rw [List.filter_filter]
    apply List.filter_congr
    intro pair listed
    by_cases same : pair.2 = id
    · have isOwner := truly.owners pair listed entry (same ▸ found)
      simp [same, isOwner]
    · rw [bne_iff_ne.mpr same, Bool.or_true]
  simp only [disown, unlink, Registry.erase, sameKinds, sameOwners]

/-- What is listed under an entry that has left the list of its owner. -/
theorem ownedBy_unlink
    (truly : registry.IndexesTruly)
    (found : registry.entry? id = some entry) :
    (registry.unlink id entry).ownedBy id = (registry.ownedBy id).filter (· != id) := by
  simp only [ownedBy, unlink, List.filter_map, List.filter_filter]
  congr 1
  apply List.filter_congr
  intro pair listed
  by_cases same : pair.2 = id
  · have isOwner := truly.owners pair listed entry (same ▸ found)
    simp [same, isOwner]
  · rw [Function.comp_apply, bne_iff_ne.mpr same, Bool.or_true, Bool.and_true, Bool.true_and]

/-- The work list of `removeAll` arrives where nested removals do. -/
theorem removesEach
    (truly : registry.IndexesTruly)
    (ids : List EntryId) :
    RemovesEach registry ids (registry.removeAll ids) := by
  induction registry, ids using removeAll.induct with
  | case1 registry =>
      rw [removeAll]
      exact .done registry
  | case2 registry id rest live inductionHypothesis =>
      rw [removeAll, if_pos live]
      obtain ⟨entry, found⟩ := (contains_iff_exists registry id).mp live
      obtain ⟨between, owned, others⟩ :=
        (inductionHypothesis (truly.erase id)).exists_of_append
      have missing : entry? (registry.erase id) id = none := by
        rw [erase_eq_without, entry?_without, if_pos (List.mem_singleton.mpr rfl)]
      refine .taken found ?_ others
      rw [truly.disown_unlink found, truly.ownedBy_unlink found]
      exact owned.filter_ne missing
  | case3 registry id rest notLive inductionHypothesis =>
      rw [removeAll, if_neg notLive]
      have missing : registry.entry? id = none := by
        rw [entry?_eq_none_iff, ← contains_iff_mem_ids]
        exact notLive
      exact .refused missing (inductionHypothesis truly)

end IndexesTruly

/-! ## The outcome -/

/-- In every state of every run from the empty registry, whatever belongs to
what: an identity with an entry is removed with the element of the entry as the
answer; nested removals come to an end, in the registry that is returned and in
no other; an entry is found there exactly if it was found before, unchanged in
all its parts, and neither is the removed one nor connected to it by owners that
have entries; and the next identity stays the same.  An identity without an
entry is refused, and the registry stays as it is. -/
theorem remove_takes_out_exactly_what_falls
    (steps : List Step)
    (id : EntryId) :
    let registry := run {} steps
    (∀ entry, registry.entry? id = some entry →
      ∃ after, registry.remove id = .ok (entry.element, after) ∧
        (∀ other, RemovesEach registry [id] other ↔ other = after) ∧
        (∀ other kept, after.entry? other = some kept ↔
          registry.entry? other = some kept ∧ ¬registry.Falls [id] other) ∧
        after.nextId = registry.nextId) ∧
    (registry.contains id = false →
      registry.remove id = .error (.notRegistered id) ∧
      ∀ now, registry.after { now, operation := .remove id } = registry) := by
  intro registry
  have consistent : registry.Consistent := consistent_run steps
  constructor
  · intro entry found
    have removes := consistent.indexesTruly.removesEach [id]
    obtain ⟨all, outcome, falling⟩ := consistent.removeAll_eq_without_falling [id]
    refine ⟨registry.removeAll [id], by rw [remove, found], ?_, ?_, ?_⟩
    · intro other
      constructor
      · intro otherRemoves
        exact otherRemoves.unique removes
      · rintro rfl
        exact removes
    · intro other kept
      rw [outcome, entry?_without, ← falling]
      split
      · next gone => simp [gone]
      · next stays => simp [stays]
    · rw [outcome]
      rfl
  · intro absent
    have missing : registry.entry? id = none := by
      rw [entry?_eq_none_iff, ← contains_iff_mem_ids, absent]
      exact Bool.false_ne_true
    have refused : registry.remove id = .error (.notRegistered id) := by
      rw [remove, missing]
    refine ⟨refused, ?_⟩
    intro now
    rw [after]
    simp only [refused]

/-- A variable that nobody owns, two entries that own each other, and one whose
owner never was there. -/
def sampleOwners : List Step :=
  let name : Name := ⟨"item", by decide⟩
  let element : Descriptor := .var { name, typeName := "", description := "" }
  [ { now := 0, operation := .add element none none },
    { now := 1, operation := .add element (some ⟨2⟩) none },
    { now := 2, operation := .add element (some ⟨1⟩) none },
    { now := 3, operation := .add element (some ⟨9⟩) none } ]

/-- Of the two that own each other both go and nobody else, and the owner that
never was there is refused. -/
theorem sampleOwners_remove :
    let registry := run {} sampleOwners
    (∃ entry after, registry.entry? ⟨1⟩ = some entry ∧
      registry.remove ⟨1⟩ = .ok (entry.element, after) ∧
      after.entry? ⟨2⟩ = none ∧
      after.entry? ⟨0⟩ = registry.entry? ⟨0⟩ ∧ after.entry? ⟨3⟩ = registry.entry? ⟨3⟩) ∧
    registry.contains ⟨9⟩ = false ∧ registry.remove ⟨9⟩ = .error (.notRegistered ⟨9⟩) := by
  intro registry
  have absent : registry.contains ⟨9⟩ = false := rfl
  have closed : ∀ item ∈ registry.entries,
      item.2.owner = some ⟨1⟩ ∨ item.2.owner = some ⟨2⟩ → item.1 = ⟨1⟩ ∨ item.1 = ⟨2⟩ := by
    decide
  have falling (id : EntryId) (falls : registry.Falls [⟨1⟩] id) : id = ⟨1⟩ ∨ id = ⟨2⟩ := by
    induction falls with
    | root listed _ => exact Or.inl (List.mem_singleton.mp listed)
    | owned member belongs _ ownerFalls =>
        apply closed _ member
        rcases ownerFalls with rfl | rfl
        · exact Or.inl belongs
        · exact Or.inr belongs
  have first : registry.Falls [⟨1⟩] ⟨1⟩ :=
    .root List.mem_cons_self ((mem_ids_iff_exists registry ⟨1⟩).mpr ⟨_, rfl⟩)
  have second : registry.Falls [⟨1⟩] ⟨2⟩ :=
    .owned (mem_of_entry?_eq_some (show registry.entry? ⟨2⟩ = some _ from rfl)) rfl first
  obtain ⟨after, removed, -, found, -⟩ :=
    (remove_takes_out_exactly_what_falls sampleOwners ⟨1⟩).1 _ rfl
  refine ⟨⟨_, after, rfl, removed, ?_, ?_, ?_⟩, absent,
    ((remove_takes_out_exactly_what_falls sampleOwners ⟨9⟩).2 absent).1⟩
  · rw [Option.eq_none_iff_forall_ne_some]
    intro kept stays
    exact ((found ⟨2⟩ kept).mp stays).2 second
  · exact (found ⟨0⟩ _).mpr ⟨rfl, fun falls => by cases falling ⟨0⟩ falls <;> contradiction⟩
  · exact (found ⟨3⟩ _).mpr ⟨rfl, fun falls => by cases falling ⟨3⟩ falls <;> contradiction⟩

end Registry
end JspCompletion
