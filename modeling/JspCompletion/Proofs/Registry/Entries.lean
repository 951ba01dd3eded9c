import JspCompletion.Registry.Query
import Mathlib.Data.List.Nodup

/-!
# Entries and what is taken out of them

The lemmas of this module say what each primitive change does to the list of
entries.  Removal is described by `without`, which takes a set of identities
out of the entries and of both indexes at once; the cascade of `removeAll`
amounts to one such step.
-/

namespace JspCompletion
namespace Registry

/-! ## Looking entries up -/

/-- The identities in use, in order of insertion. -/
def ids (registry : Registry) : List EntryId :=
  registry.entries.map (·.1)

/-- A registry contains exactly the identities in use. -/
theorem contains_iff_mem_ids
    (registry : Registry)
    (id : EntryId) :
    registry.contains id = true ↔ id ∈ registry.ids := by
  simp [contains, entry?, ids]

/-- An entry that is found stands in the list of entries. -/
theorem mem_of_entry?_eq_some
    {registry : Registry}
    {id : EntryId}
    {entry : Entry}
    (found : registry.entry? id = some entry) :
    (id, entry) ∈ registry.entries := by
  obtain ⟨item, itemFound, rfl⟩ := Option.map_eq_some_iff.mp found
  have sameId : item.1 = id := by simpa using List.find?_some itemFound
  have member := List.mem_of_find?_eq_some itemFound
  rwa [← sameId]

/-- A contained identity has an entry. -/
theorem contains_iff_exists
    (registry : Registry)
    (id : EntryId) :
    registry.contains id = true ↔ ∃ entry, registry.entry? id = some entry := by
  rw [contains, Option.isSome_iff_exists]

/-- The identities in use are those under which an entry is found. -/
theorem mem_ids_iff_exists
    (registry : Registry)
    (id : EntryId) :
    id ∈ registry.ids ↔ ∃ entry, registry.entry? id = some entry := by
  rw [← contains_iff_mem_ids, contains_iff_exists]

theorem entry?_eq_none_iff
    (registry : Registry)
    (id : EntryId) :
    registry.entry? id = none ↔ id ∉ registry.ids := by
  rw [mem_ids_iff_exists, ← Option.isSome_iff_exists, Option.not_isSome_iff_eq_none]

/-- The identity of a listed entry is contained. -/
theorem contains_of_mem
    {registry : Registry}
    {item : EntryId × Entry}
    (member : item ∈ registry.entries) :
    registry.contains item.1 = true :=
  (contains_iff_mem_ids registry item.1).mpr (List.mem_map_of_mem member)

/-! ## Inserting an entry -/

@[simp] theorem ids_add
    (registry : Registry)
    (now : Time)
    (element : Descriptor)
    (owner : Option EntryId)
    (lifetime : Option Lifetime) :
    (registry.add now element owner lifetime).2.ids =
      registry.ids ++ [⟨registry.nextId⟩] := by
  simp [add, ids]

/-! ## Changing an entry in place -/

@[simp] theorem ids_update
    (registry : Registry)
    (id : EntryId)
    (change : Entry → Entry) :
    (registry.update id change).ids = registry.ids := by
  simp only [ids, update, List.map_map]
  apply List.map_congr_left
  intro item _
  simp only [Function.comp_apply]
  split <;> rfl

/-! ## Taking entries out -/

/-- The registry without some identities, and without all that the indexes say
about them. -/
def without (registry : Registry) (removed : List EntryId) : Registry :=
  { registry with
    entries := registry.entries.filter (·.1 ∉ removed)
    kindIndex := registry.kindIndex.filter (·.2 ∉ removed)
    childIndex :=
      registry.childIndex.filter fun pair => pair.1 ∉ removed ∧ pair.2 ∉ removed }

@[simp] theorem without_nil (registry : Registry) : registry.without [] = registry := by
  simp [without]

/-- Taking out one more identity after others. -/
theorem erase_without
    (registry : Registry)
    (id : EntryId)
    (removed : List EntryId) :
    (registry.without removed).erase id = registry.without (id :: removed) := by
  have keepsBoth (other : EntryId) :
      (other != id && Decidable.decide (other ∉ removed)) =
        Decidable.decide (other ∉ id :: removed) := by
    rw [Bool.eq_iff_iff]
    simp
  simp only [erase, without, List.filter_filter, keepsBoth, mk.injEq, and_true, true_and]
  apply List.filter_congr
  intro pair _
  simp only [Bool.decide_and, ← keepsBoth]
  ac_rfl

theorem mem_ids_without
    (registry : Registry)
    (removed : List EntryId)
    (id : EntryId) :
    id ∈ (registry.without removed).ids ↔ id ∈ registry.ids ∧ id ∉ removed := by
  simp only [ids, without, List.mem_map, List.mem_filter, decide_eq_true_eq]
  constructor
  · rintro ⟨item, ⟨member, kept⟩, rfl⟩
    exact ⟨⟨item, member, rfl⟩, kept⟩
  · rintro ⟨⟨item, member, rfl⟩, kept⟩
    exact ⟨item, ⟨member, kept⟩, rfl⟩

theorem entry?_without
    (registry : Registry)
    (removed : List EntryId)
    (id : EntryId) :
    entry? (registry.without removed) id =
      if id ∈ removed then none else registry.entry? id := by
  simp only [ entry?, without, List.find?_filter]
  by_cases gone : id ∈ removed
  · rw [if_pos gone, Option.map_eq_none_iff, List.find?_eq_none]
    intro item _
    by_cases same : item.1 = id
    · simp [same, gone]
    · simp [same]
  · rw [if_neg gone]
    congr 2
    funext item
    by_cases same : item.1 = id
    · simp [same, gone]
    · simp [same]

/-- A set of identities holds with each entry everything that belongs to it. -/
def ClosedUnderOwnership (registry : Registry) (removed : List EntryId) : Prop :=
  ∀ item ∈ registry.entries, ∀ owner ∈ removed,
    item.2.owner = some owner → item.1 ∈ removed

/-- What goes when some entries are removed: they themselves and, step by step,
what belongs to them. -/
inductive Falls (registry : Registry) (roots : List EntryId) : EntryId → Prop
  | root
      {id : EntryId}
      (listed : id ∈ roots)
      (live : id ∈ registry.ids) :
      Falls registry roots id
  | owned
      {item : EntryId × Entry}
      {owner : EntryId}
      (member : item ∈ registry.entries)
      (belongs : item.2.owner = some owner)
      (falls : Falls registry roots owner) :
      Falls registry roots item.1

end Registry
end JspCompletion
