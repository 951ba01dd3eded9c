import JspCompletion.Proofs.Registry.Query
import JspCompletion.Proofs.Registry.Run

/-!
# Steady entries

An entry is steady when no decision about it is left: once its life has passed
it is kept, and its life starts again.  Static entries are steady too.

Reading a steady entry changes nothing but the beginning of its life, so a
query over steady entries leaves identities, elements and owners as they were.
And whatever is done with a registry, a steady entry that is still there is the
one it was.
-/

namespace JspCompletion

namespace Entry

/-- No decision about the entry is left. -/
def IsSteady (entry : Entry) : Prop :=
  ∀ lifetime, entry.lifetime = some lifetime → lifetime.plan = []

/-- The entry apart from the beginning of its life. -/
def timeless (entry : Entry) : Entry :=
  { entry with lastChanged := 0 }

theorem isSteady_of_static
    {entry : Entry}
    (static : entry.lifetime = none) :
    entry.IsSteady := by
  intro lifetime life
  rw [static] at life
  cases life

theorem IsSteady.decision
    {entry : Entry}
    (steady : entry.IsSteady) :
    (entry.lifetime.map Lifetime.decision).getD .keep = .keep := by
  cases life : entry.lifetime with
  | none => rfl
  | some lifetime => simp [Lifetime.decision, steady lifetime life]

theorem IsSteady.next
    {entry : Entry}
    (steady : entry.IsSteady) :
    entry.lifetime.map Lifetime.next = entry.lifetime := by
  cases life : entry.lifetime with
  | none => rfl
  | some lifetime =>
      have spent := steady lifetime life
      obtain ⟨span, plan⟩ := lifetime
      simp_all [Lifetime.next]

/-- Only the life of an entry tells whether it is steady. -/
theorem IsSteady.congr
    {entry other : Entry}
    (steady : entry.IsSteady)
    (same : other.timeless = entry.timeless) :
    other.IsSteady := by
  intro lifetime life
  apply steady
  rw [← life]
  exact (congrArg Entry.lifetime same).symm

end Entry

namespace Registry

/-! ## What becomes of known entries -/

/-- Whatever is there later under a known identity was there before, with or
without a life as it is now; and if it was steady, it is the entry it was. -/
structure Keeps (before after : Registry) : Prop where
  /-- The next identity never moves back. -/
  nextId_le : before.nextId ≤ after.nextId
  /-- Known identities stand for what they stood for. -/
  known : ∀ item ∈ after.entries, item.1.value < before.nextId →
    ∃ old, (item.1, old) ∈ before.entries ∧
      old.lifetime.isSome = item.2.lifetime.isSome ∧
      (old.IsSteady → item.2.timeless = old.timeless)

namespace Keeps

/-- A registry that has no entries but some of those it had. -/
theorem of_subset
    {before after : Registry}
    (nextId : after.nextId = before.nextId)
    (subset : after.entries ⊆ before.entries) :
    Keeps before after :=
  { nextId_le := Nat.le_of_eq nextId.symm
    known := fun item member _ => ⟨item.2, subset member, rfl, fun _ => rfl⟩ }

theorem refl (registry : Registry) : Keeps registry registry :=
  of_subset rfl (List.Subset.refl _)

theorem trans
    {before between after : Registry}
    (first : Keeps before between)
    (second : Keeps between after) :
    Keeps before after :=
  { nextId_le := Nat.le_trans first.nextId_le second.nextId_le
    known := by
      intro item member known
      obtain ⟨middle, middleMember, middleLife, middleKept⟩ :=
        second.known item member (Nat.lt_of_lt_of_le known first.nextId_le)
      obtain ⟨old, oldMember, oldLife, oldKept⟩ := first.known _ middleMember known
      refine ⟨old, oldMember, oldLife.trans middleLife, ?_⟩
      intro steady
      have same := oldKept steady
      rw [middleKept (steady.congr same), same] }

end Keeps

theorem keeps_add
    (registry : Registry)
    (now : Time)
    (element : Descriptor)
    (owner : Option EntryId)
    (lifetime : Option Lifetime) :
    Keeps registry (registry.add now element owner lifetime).2 :=
  { nextId_le := Nat.le_succ _
    known := by
      intro item member known
      rcases List.mem_append.mp member with old | new
      · exact ⟨item.2, old, rfl, fun _ => rfl⟩
      · rw [List.mem_singleton.mp new] at known
        exact absurd known (Nat.lt_irrefl _) }

theorem keeps_addAll
    (registry : Registry)
    (now : Time)
    (owner : Option EntryId)
    (elements : List Descriptor) :
    Keeps registry (registry.addAll now owner elements) := by
  induction elements generalizing registry with
  | nil => exact Keeps.refl registry
  | cons element rest inductionHypothesis =>
      exact (registry.keeps_add now element owner none).trans (inductionHypothesis _)

theorem Consistent.keeps_removeAll
    {registry : Registry}
    (consistent : registry.Consistent)
    (roots : List EntryId) :
    Keeps registry (registry.removeAll roots) := by
  obtain ⟨all, equal, -⟩ := consistent.removeAll_eq_without roots
  rw [equal]
  exact Keeps.of_subset rfl (List.filter_subset_self _)

/-- Asking a plan and then changing the entry is one change. -/
theorem entries_update_ask
    (registry : Registry)
    (now : Time)
    (id : EntryId)
    (change : Entry → Entry) :
    ((registry.ask now id).update id change).entries =
      (registry.update id fun entry =>
        change { entry with lifetime := entry.lifetime.map Lifetime.next }).entries := by
  simp only [ask, update, List.map_map]
  apply List.map_congr_left
  intro item _
  by_cases same : item.1 = id <;> simp [same]

/-- A change in place keeps what it does to a steady entry to the beginning of
its life. -/
theorem keeps_update
    {registry after : Registry}
    (id : EntryId)
    (change : Entry → Entry)
    (entries : after.entries = (registry.update id change).entries)
    (nextId : after.nextId = registry.nextId)
    (lives : ∀ entry, (change entry).lifetime.isSome = entry.lifetime.isSome)
    (steady : ∀ entry, (id, entry) ∈ registry.entries → entry.IsSteady →
      (change entry).timeless = entry.timeless) :
    Keeps registry after :=
  { nextId_le := Nat.le_of_eq nextId.symm
    known := by
      intro item member _
      rw [entries, update, List.mem_map] at member
      obtain ⟨⟨oldId, old⟩, oldMember, rfl⟩ := member
      refine ⟨old, ?_, ?_⟩
      · split <;> exact oldMember
      · by_cases same : oldId = id
        · subst same
          simpa using ⟨(lives old).symm, steady old oldMember⟩
        · simp [same] }

/-- Reading an entry changes a steady one at most in the beginning of its life,
since its decision is to keep it. -/
theorem Consistent.keeps_get
    {registry : Registry}
    (consistent : registry.Consistent)
    (now : Time)
    (id : EntryId) :
    Keeps registry (registry.get now id).2 := by
  unfold get
  cases found : registry.entry? id with
  | none => exact Keeps.refl registry
  | some entry =>
      by_cases expired : isExpired entry now = true
      · simp only [expired, if_true]
        have unique : ∀ other, (id, other) ∈ registry.entries → other = entry := by
          intro other member
          have otherFound := (consistent.entry?_eq_some_iff id other).mpr member
          rw [found] at otherFound
          exact (Option.some.inj otherFound).symm
        have lives (other : Entry) :
            (other.lifetime.map Lifetime.next).isSome = other.lifetime.isSome := by
          simp
        cases decision : (entry.lifetime.map Lifetime.decision).getD .keep with
        | keep =>
            refine keeps_update id _
              (registry.entries_update_ask now id fun entry => { entry with lastChanged := now })
              rfl lives ?_
            intro other _ steady
            simp [Entry.timeless, steady.next]
        | replace element =>
            refine keeps_update id _
              (registry.entries_update_ask now id fun entry =>
                { entry with element, lastChanged := now })
              rfl lives ?_
            intro other member steady
            rw [unique other member] at steady
            rw [steady.decision] at decision
            cases decision
        | remove =>
            have asked : Keeps registry (registry.ask now id) := by
              refine keeps_update id
                (fun entry => { entry with lifetime := entry.lifetime.map Lifetime.next })
                rfl rfl lives ?_
              intro other _ steady
              simp [Entry.timeless, steady.next]
            exact asked.trans ((consistent.evolves_ask now id).consistent.keeps_removeAll [id])
      · simp only [expired, Bool.false_eq_true, if_false]
        exact Keeps.refl registry

theorem Consistent.keeps_readAll
    {registry : Registry}
    (consistent : registry.Consistent)
    (now : Time)
    (query : Query)
    (candidates : List EntryId) :
    Keeps registry (registry.readAll now query candidates).2 := by
  induction candidates generalizing registry with
  | nil => exact Keeps.refl registry
  | cons id rest inductionHypothesis =>
      rw [readAll_cons_registry]
      exact (consistent.keeps_get now id).trans
        (inductionHypothesis (consistent.evolves_get now id).consistent)

theorem Consistent.keeps_importLibrary
    {registry : Registry}
    (consistent : registry.Consistent)
    (now : Time)
    (library : TagLibrary) :
    Keeps registry (registry.importLibrary now library).2 := by
  let sameUri : Query :=
    { kind := some .library
      rules := [{ property := "uri", values := [library.uri] }] }
  have queried := consistent.evolves_readAll now sameUri (registry.candidates sameUri)
  exact (((consistent.keeps_readAll now sameUri (registry.candidates sameUri)).trans
    (queried.consistent.keeps_removeAll _)).trans (keeps_add _ now _ none none)).trans
      (keeps_addAll _ now _ _)

/-- Whatever is done with a registry, known identities stand for what they stood
for. -/
theorem Consistent.keeps_after
    {registry : Registry}
    (consistent : registry.Consistent)
    (step : Step) :
    Keeps registry (registry.after step) := by
  obtain ⟨now, operation⟩ := step
  cases operation with
  | add element owner lifetime => exact registry.keeps_add now element owner lifetime
  | remove id =>
      simp only [after, remove]
      cases registry.entry? id with
      | none => exact Keeps.refl registry
      | some entry => exact consistent.keeps_removeAll [id]
  | get id => exact consistent.keeps_get now id
  | query query => exact consistent.keeps_readAll now query _
  | importLibrary library => exact consistent.keeps_importLibrary now library

/-! ## Reading steady entries -/

/-- The entries apart from the beginnings of their lives. -/
def timeless (registry : Registry) : List (EntryId × Entry) :=
  registry.entries.map fun item => (item.1, item.2.timeless)

theorem entry?_timeless
    (registry : Registry)
    (id : EntryId) :
    (registry.entry? id).map Entry.timeless =
      (registry.timeless.find? (·.1 == id)).map (·.2) := by
  simp only [ entry?, timeless, List.find?_map, Option.map_map]
  rfl

theorem entry?_update
    (registry : Registry)
    (id other : EntryId)
    (change : Entry → Entry) :
    entry? (registry.update id change) other =
      if other = id then (registry.entry? other).map change else registry.entry? other := by
  have sameId : ((fun item : EntryId × Entry => item.1 == other) ∘ fun item =>
      if item.1 == id then (item.1, change item.2) else item) = fun item => item.1 == other := by
    funext item
    simp only [Function.comp_apply]
    split <;> rfl
  rw [ entry?, entry?, update, List.find?_map, sameId]
  cases found : registry.entries.find? (·.1 == other) with
  | none => simp
  | some item =>
      have itemId : item.1 = other := by
        simpa using List.find?_some found
      by_cases same : other = id <;> simp [itemId, same]

/-- Nothing changed but the beginnings of lives, and those only for entries of a
list that have a life. -/
structure Refreshed (ids : List EntryId) (before after : Registry) : Prop where
  timeless : after.timeless = before.timeless
  nextId : after.nextId = before.nextId
  untouched : ∀ id,
    (id ∈ ids → ∀ entry, before.entry? id = some entry → entry.lifetime = none) →
      after.entry? id = before.entry? id

namespace Refreshed

theorem refl
    (ids : List EntryId)
    (registry : Registry) :
    Refreshed ids registry registry :=
  { timeless := rfl
    nextId := rfl
    untouched := fun _ _ => rfl }

theorem cons
    {id : EntryId}
    {rest : List EntryId}
    {before between after : Registry}
    (first : Refreshed [id] before between)
    (second : Refreshed rest between after) :
    Refreshed (id :: rest) before after :=
  { timeless := second.timeless.trans first.timeless
    nextId := second.nextId.trans first.nextId
    untouched := by
      intro other static
      have kept : between.entry? other = before.entry? other := by
        apply first.untouched
        intro listed
        exact static (List.mem_cons.mpr (Or.inl (List.mem_singleton.mp listed)))
      rw [second.untouched other, kept]
      intro listed
      rw [kept]
      exact static (List.mem_cons_of_mem _ listed) }

theorem entry?_timeless_eq
    {ids : List EntryId}
    {before after : Registry}
    (refreshed : Refreshed ids before after)
    (id : EntryId) :
    (after.entry? id).map Entry.timeless = (before.entry? id).map Entry.timeless := by
  rw [entry?_timeless, entry?_timeless, refreshed.timeless]

theorem ids_eq
    {ids : List EntryId}
    {before after : Registry}
    (refreshed : Refreshed ids before after) :
    after.ids = before.ids := by
  have mapped := congrArg (List.map (·.1)) refreshed.timeless
  simp only [Registry.timeless, List.map_map] at mapped
  exact mapped

theorem entry?_element
    {ids : List EntryId}
    {before after : Registry}
    (refreshed : Refreshed ids before after)
    (id : EntryId) :
    (after.entry? id).map Entry.element = (before.entry? id).map Entry.element := by
  have elements := congrArg (Option.map Entry.element) (refreshed.entry?_timeless_eq id)
  rwa [Option.map_map, Option.map_map] at elements

end Refreshed

/-- Reading a steady entry gives its element and leaves all else as it was. -/
theorem Consistent.get_of_steady
    {registry : Registry}
    (consistent : registry.Consistent)
    (now : Time)
    {id : EntryId}
    (steady : ∀ entry, registry.entry? id = some entry → entry.IsSteady) :
    (registry.get now id).1 = (registry.entry? id).map Entry.element ∧
      Refreshed [id] registry (registry.get now id).2 := by
  unfold get
  cases found : registry.entry? id with
  | none => exact ⟨rfl, Refreshed.refl _ registry⟩
  | some entry =>
      have kept := steady entry found
      by_cases expired : isExpired entry now = true
      · have entries := registry.entries_update_ask now id fun entry =>
          { entry with lastChanged := now }
        simp only [expired, if_true, kept.decision]
        refine ⟨rfl, ?_, rfl, ?_⟩
        · change List.map _ ((registry.ask now id).update id _).entries = _
          rw [entries, timeless, update, List.map_map]
          apply List.map_congr_left
          intro item member
          by_cases same : item.1 = id
          · have itemEq : item.2 = entry := by
              have itemFound := (consistent.entry?_eq_some_iff item.1 item.2).mpr member
              rw [same, found] at itemFound
              exact (Option.some.inj itemFound).symm
            simp [same, itemEq, Entry.timeless, kept.next]
          · simp [same]
        · intro other static
          have otherEq := entry?_update registry id other fun entry =>
            { entry with lifetime := entry.lifetime.map Lifetime.next, lastChanged := now }
          rw [ entry?, ← entries] at otherEq
          refine Eq.trans otherEq (if_neg ?_)
          rintro rfl
          have noLife := static List.mem_cons_self entry found
          simp [isExpired, noLife] at expired
      · simp only [expired, Bool.false_eq_true, if_false]
        exact ⟨rfl, Refreshed.refl _ registry⟩

/-- The entry with an identity, if a query selects it. -/
def selected? (registry : Registry) (query : Query) (id : EntryId) :
    Option (EntryId × Descriptor) :=
  ((registry.entry? id).map Entry.element).bind fun element =>
    if query.selects element then some (id, element) else none

theorem Consistent.readAll_of_steady
    {registry : Registry}
    (consistent : registry.Consistent)
    (now : Time)
    (query : Query)
    (candidates : List EntryId)
    (steady : ∀ id ∈ candidates, ∀ entry, registry.entry? id = some entry → entry.IsSteady) :
    (registry.readAll now query candidates).1 = candidates.filterMap (registry.selected? query) ∧
      Refreshed candidates registry (registry.readAll now query candidates).2 := by
  induction candidates generalizing registry with
  | nil => exact ⟨rfl, Refreshed.refl [] registry⟩
  | cons id rest inductionHypothesis =>
      obtain ⟨elementEq, refreshed⟩ :=
        consistent.get_of_steady now (steady id List.mem_cons_self)
      obtain ⟨foundEq, refreshedRest⟩ :=
        inductionHypothesis (consistent.evolves_get now id).consistent (by
          intro other listed entry found
          have same := refreshed.entry?_timeless_eq other
          rw [found, Option.map_some] at same
          obtain ⟨old, oldFound, oldEq⟩ := Option.map_eq_some_iff.mp same.symm
          exact (steady other (List.mem_cons_of_mem _ listed) old oldFound).congr oldEq.symm)
      have sameSelection : (registry.get now id).2.selected? query = registry.selected? query := by
        funext other
        rw [selected?, selected?, refreshed.entry?_element]
      refine ⟨?_, ?_⟩
      · rw [readAll]
        simp only [elementEq, foundEq, sameSelection, List.filterMap_cons, selected?]
        cases registry.entry? id with
        | none => rfl
        | some entry =>
            by_cases selected : query.selects entry.element = true <;> simp [selected]
      · rw [readAll_cons_registry]
        exact refreshed.cons refreshedRest

theorem Consistent.candidates_eq_filter
    {registry : Registry}
    (consistent : registry.Consistent)
    (query : Query) :
    registry.candidates query =
      (registry.entries.filter fun item => query.kind.all (· == item.2.element.kind)).map
        (·.1) := by
  unfold candidates
  cases query.kind with
  | none => simp
  | some kind =>
      refine (consistent.ofKind_eq_filter kind).trans ?_
      congr 2
      funext item
      exact Bool.beq_comm

/-- A query over steady entries filters the entries, and leaves all but the
beginnings of their lives as it was. -/
theorem Consistent.query_of_steady
    {registry : Registry}
    (consistent : registry.Consistent)
    (now : Time)
    (query : Query)
    (steady : ∀ item ∈ registry.entries, query.kind.all (· == item.2.element.kind) = true →
      item.2.IsSteady) :
    (registry.query now query).1 =
        (registry.entries.filter (query.selects ·.2.element)).map
          (fun item => (item.1, item.2.element)) ∧
      Refreshed (registry.candidates query) registry (registry.query now query).2 := by
  have candidatesEq := consistent.candidates_eq_filter query
  have steadyCandidates : ∀ id ∈ registry.candidates query, ∀ entry,
      registry.entry? id = some entry → entry.IsSteady := by
    intro id listed entry found
    rw [candidatesEq] at listed
    obtain ⟨item, member, rfl⟩ := List.mem_map.mp listed
    obtain ⟨itemMember, ofKind⟩ := List.mem_filter.mp member
    rw [(consistent.entry?_eq_some_iff item.1 item.2).mpr itemMember] at found
    cases found
    exact steady item itemMember ofKind
  obtain ⟨foundEq, refreshed⟩ := consistent.readAll_of_steady now query _ steadyCandidates
  refine ⟨?_, refreshed⟩
  change (registry.readAll now query _).1 = _
  rw [foundEq, candidatesEq, List.filterMap_map, ← List.filterMap_eq_map, List.filterMap_filter,
    List.filterMap_filter]
  apply List.filterMap_congr
  intro item member
  have itemFound := (consistent.entry?_eq_some_iff item.1 item.2).mpr member
  by_cases ofKind : query.kind.all (· == item.2.element.kind) = true
  · simp [selected?, itemFound, ofKind]
  · simp [Query.selects, ofKind]

/-! ## Identities, elements and owners -/

/-- What an entry says to others. -/
structure Holding where
  /-- Its identity. -/
  id : EntryId
  /-- Its element. -/
  element : Descriptor
  /-- The entry it belongs to. -/
  owner : Option EntryId
deriving DecidableEq, Repr

/-- What the entries say, in order of insertion. -/
def holdings (registry : Registry) : List Holding :=
  registry.entries.map fun item => ⟨item.1, item.2.element, item.2.owner⟩

theorem Refreshed.holdings_eq
    {ids : List EntryId}
    {before after : Registry}
    (refreshed : Refreshed ids before after) :
    after.holdings = before.holdings := by
  have mapped := congrArg (List.map fun item : EntryId × Entry =>
    (⟨item.1, item.2.element, item.2.owner⟩ : Holding)) refreshed.timeless
  simp only [Registry.timeless, List.map_map] at mapped
  exact mapped

@[simp] theorem holdings_add
    (registry : Registry)
    (now : Time)
    (element : Descriptor)
    (owner : Option EntryId)
    (lifetime : Option Lifetime) :
    (registry.add now element owner lifetime).2.holdings =
      registry.holdings ++ [⟨⟨registry.nextId⟩, element, owner⟩] := by
  simp [add, holdings]

@[simp] theorem holdings_without
    (registry : Registry)
    (removed : List EntryId) :
    (registry.without removed).holdings = registry.holdings.filter (·.id ∉ removed) := by
  rw [holdings, holdings, without, List.filter_map]
  rfl

end Registry
end JspCompletion
