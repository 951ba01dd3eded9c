import JspCompletion.Proofs.Variables.Work

/-!
# Sweeps

A sweep reads the variables, clears away what the text does not declare any
more, and registers what is missing.  The lemmas follow these parts: reading
changes nothing but beginnings of lives, clearing takes out stale variables of
the scanner only, and what is registered is noted.  So a sweep leaves a scanner
that has done its work, and the same sweep again finds nothing to do.
-/

namespace JspCompletion

open Registry Markup VariableScanner

namespace Work

/-! ## The parts of a sweep -/

/-- The registry once its variables have been read. -/
def read (work : Work) (now : Time) : Registry :=
  (work.registry.query now { kind := some .var }).2

/-- The names that the scanner leaves alone. -/
def reserved (work : Work) (now : Time) : List String :=
  work.scanner.reserved (work.registry.query now { kind := some .var }).1

/-- The noted variables that are still right. -/
def current (work : Work) (now : Time) (text : List Char) : List OwnedVariable :=
  work.scanner.owned.filter fun item => isCurrent (work.read now) (desired text) item

/-- The identities of the other noted variables. -/
def stale (work : Work) (now : Time) (text : List Char) : List EntryId :=
  (work.scanner.owned.filter fun item => !isCurrent (work.read now) (desired text) item).map
    (·.id)

/-- The registry without the variables that are not right. -/
def cleared (work : Work) (now : Time) (text : List Char) : Registry :=
  (work.read now).removeAll (work.stale now text)

theorem scanner_sweep_eq
    (work : Work)
    (now : Time)
    (text : List Char)
    (span : Nat) :
    work.scanner.sweep now text span work.registry =
      (desired text).foldl (addVariable now span (work.reserved now))
        ({ work.scanner with owned := work.current now text }, work.cleared now text) :=
  rfl

section Parts

variable {start : Nat} {work : Work}

theorem Faithful.steady
    (faithful : work.Faithful start)
    (static : work.Static) :
    ∀ item ∈ work.registry.entries, item.2.element.kind = .var → item.2.IsSteady := by
  intro item member ofKind
  by_cases made : item.1 ∈ work.made
  · have found := (faithful.consistent.entry?_eq_some_iff item.1 item.2).mpr member
    obtain ⟨_, -, -, isShown⟩ := faithful.exists_shown made found
    exact isShown.steady
  · exact Entry.isSteady_of_static (static item member made ofKind)

/-- Reading the variables gives them all and changes nothing but beginnings of
lives. -/
theorem Faithful.query_variables
    (faithful : work.Faithful start)
    (static : work.Static)
    (now : Time) :
    (work.registry.query now { kind := some .var }).1 =
        (work.registry.entries.filter fun item => item.2.element.kind == .var).map
          (fun item => (item.1, item.2.element)) ∧
      Refreshed (work.registry.ofKind .var) work.registry (work.read now) := by
  have queried := faithful.consistent.query_of_steady now { kind := some .var } (by
    intro item member ofKind
    exact faithful.steady static item member (beq_iff_eq.mp ofKind).symm)
  refine ⟨queried.1.trans ?_, queried.2⟩
  congr 2
  funext item
  simp [Query.selects, Bool.beq_comm]

theorem Faithful.mem_reserved_iff
    (faithful : work.Faithful start)
    (static : work.Static)
    (now : Time)
    (name : String) :
    name ∈ work.reserved now ↔ work.Taken name := by
  rw [reserved, VariableScanner.reserved, (faithful.query_variables static now).1]
  simp only [List.mem_map, List.mem_filter, Bool.not_eq_true', List.any_eq_false, beq_iff_eq]
  constructor
  · rintro ⟨_, ⟨⟨item, ⟨member, ofKind⟩, rfl⟩, notOwned⟩, rfl⟩
    have found := (faithful.consistent.entry?_eq_some_iff item.1 item.2).mpr member
    refine ⟨item.1, ?_, ?_⟩
    · intro made
      obtain ⟨noted, owned, sameId⟩ :=
        faithful.made_owned item.1 made (List.mem_map_of_mem member)
      exact notOwned noted owned sameId
    · cases element : item.2.element with
      | var var => exact ⟨var, by rw [found, Option.map_some, element], rfl⟩
      | _ => simp [element, Descriptor.kind] at ofKind
  · rintro ⟨id, notMade, var, found, rfl⟩
    obtain ⟨entry, entryFound, element⟩ := Option.map_eq_some_iff.mp found
    refine ⟨(id, entry.element), ⟨⟨(id, entry), ⟨mem_of_entry?_eq_some entryFound, ?_⟩, rfl⟩,
      ?_⟩, ?_⟩
    · rw [element]
      rfl
    · rintro item owned rfl
      exact notMade (faithful.owned_made item owned)
    · rw [element]
      rfl

theorem Faithful.mem_current_iff
    (faithful : work.Faithful start)
    (static : work.Static)
    (now : Time)
    (text : List Char)
    (item : OwnedVariable) :
    item ∈ work.current now text ↔
      item ∈ work.scanner.owned ∧ item.id ∈ work.registry.ids ∧
        (item.name, item.typeName) ∈ desired text := by
  rw [current, List.mem_filter, isCurrent, Bool.and_eq_true, contains_iff_mem_ids,
    List.contains_iff_mem, (faithful.query_variables static now).2.ids_eq]

/-- Of the entries that are there, those are stale that are not current. -/
theorem Faithful.not_mem_stale
    (faithful : work.Faithful start)
    (static : work.Static)
    {now : Time}
    {text : List Char}
    {item : OwnedVariable}
    (isCurrent : item ∈ work.current now text) :
    item.id ∉ work.stale now text := by
  intro isStale
  obtain ⟨owned, live, -⟩ := (faithful.mem_current_iff static now text item).mp isCurrent
  obtain ⟨other, otherStale, sameId⟩ := List.mem_map.mp isStale
  obtain ⟨otherOwned, notCurrent⟩ := List.mem_filter.mp otherStale
  rw [← faithful.eq_of_id_eq owned otherOwned live sameId.symm] at notCurrent
  rw [(List.mem_filter.mp isCurrent).2] at notCurrent
  cases notCurrent

theorem Faithful.made_of_mem_stale
    (faithful : work.Faithful start)
    {now : Time}
    {text : List Char}
    {id : EntryId}
    (isStale : id ∈ work.stale now text) :
    id ∈ work.made := by
  obtain ⟨item, filtered, rfl⟩ := List.mem_map.mp isStale
  exact faithful.owned_made item (List.mem_of_mem_filter filtered)

/-- Nothing belongs to a variable of the scanner, so nothing else goes with
it. -/
theorem Faithful.mem_stale_of_falls
    (faithful : work.Faithful start)
    (apart : work.Apart start)
    {now : Time}
    {text : List Char}
    {id : EntryId}
    (falls : (work.read now).Falls (work.stale now text) id) :
    id ∈ work.stale now text ∧ id ∈ work.registry.ids := by
  have refreshed := (faithful.query_variables apart.static now).2
  induction falls with
  | root listed live =>
      rw [refreshed.ids_eq] at live
      exact ⟨listed, live⟩
  | @owned item owner member belongs _ inductionHypothesis =>
      obtain ⟨ownerStale, ownerLive⟩ := inductionHypothesis
      have listed : (item.1, item.2.timeless) ∈ work.registry.timeless := by
        rw [← refreshed.timeless]
        exact List.mem_map_of_mem (f := fun item => (item.1, item.2.timeless)) member
      obtain ⟨old, oldMember, oldEq⟩ := List.mem_map.mp listed
      obtain ⟨-, sameEntry⟩ := Prod.mk.inj oldEq
      have oldOwner : old.2.owner = some owner :=
        (congrArg Entry.owner sameEntry).trans belongs
      exact absurd oldOwner
        (apart.unowned old oldMember owner (faithful.made_of_mem_stale ownerStale) ownerLive)

theorem Faithful.consistent_read
    (faithful : work.Faithful start)
    (now : Time) :
    (work.read now).Consistent :=
  (faithful.consistent.evolves_readAll now _ _).consistent

/-- Clearing away takes out the stale variables and nothing else. -/
theorem Faithful.entry?_cleared
    (faithful : work.Faithful start)
    (apart : work.Apart start)
    (now : Time)
    (text : List Char)
    (id : EntryId) :
    Registry.entry? (work.cleared now text) id =
      if id ∈ work.stale now text then none else Registry.entry? (work.read now) id := by
  obtain ⟨all, removed, falling⟩ :=
    (faithful.consistent_read now).removeAll_eq_without_falling (work.stale now text)
  rw [cleared, removed, entry?_without]
  by_cases isStale : id ∈ work.stale now text
  · rw [if_pos isStale, ite_eq_left_iff, entry?_eq_none_iff]
    intro stays live
    exact stays ((falling id).mpr (Falls.root isStale live))
  · rw [if_neg isStale, if_neg]
    intro gone
    exact isStale (faithful.mem_stale_of_falls apart ((falling id).mp gone)).1

theorem Faithful.nextId_cleared
    (faithful : work.Faithful start)
    (static : work.Static)
    (now : Time)
    (text : List Char) :
    (work.cleared now text).nextId = work.registry.nextId := by
  obtain ⟨all, removed, -⟩ :=
    (faithful.consistent_read now).removeAll_eq_without (work.stale now text)
  rw [cleared, removed]
  exact (faithful.query_variables static now).2.nextId

/-- What is current is there as it was. -/
theorem Faithful.entry?_cleared_of_current
    (faithful : work.Faithful start)
    (apart : work.Apart start)
    {now : Time}
    {text : List Char}
    {item : OwnedVariable}
    (isCurrent : item ∈ work.current now text) :
    (Registry.entry? (work.cleared now text) item.id).map Entry.timeless =
      (work.registry.entry? item.id).map Entry.timeless := by
  rw [faithful.entry?_cleared apart, if_neg (faithful.not_mem_stale apart.static isCurrent)]
  exact (faithful.query_variables apart.static now).2.entry?_timeless_eq item.id

/-- With the stale variables cleared away, the missing ones may be registered. -/
theorem Faithful.filled_cleared
    (faithful : work.Faithful start)
    (apart : work.Apart start)
    (now : Time)
    (text : List Char) :
    Filled (work.cleared now text) (work.current now text) (work.reserved now) (desired text)
      ({ work.scanner with owned := work.current now text }, work.cleared now text) := by
  have isCurrent := faithful.mem_current_iff apart.static now text
  have consistent : (work.cleared now text).Consistent :=
    ((faithful.consistent_read now).evolves_removeAll _).consistent
  exact
    { consistent
      nextId_le := Nat.le_refl _
      old := fun _ _ => rfl
      new := fun id live later =>
        absurd (consistent.value_lt_nextId live) (Nat.not_lt.mpr later)
      shown := by
        intro item member
        obtain ⟨owned, live, -⟩ := (isCurrent item).mp member
        obtain ⟨entry, found⟩ :=
          (mem_ids_iff_exists _ item.id).mp live
        have same := faithful.entry?_cleared_of_current apart member
        rw [found, Option.map_some] at same
        obtain ⟨left, leftFound, leftEq⟩ := Option.map_eq_some_iff.mp same
        exact ⟨left, leftFound, (faithful.shown item owned entry found).congr leftEq⟩
      keeps := List.Subset.refl _
      adds := fun _ member => Or.inl member
      names := faithful.names.sublist (List.filter_sublist.map _)
      wanted := fun item member => ((isCurrent item).mp member).2.2
      free := by
        intro item member
        obtain ⟨owned, live, -⟩ := (isCurrent item).mp member
        rw [faithful.mem_reserved_iff apart.static]
        exact faithful.free item owned live }

/-- A sweep registers what is missing and leaves what is not. -/
theorem Faithful.filled_sweep
    (faithful : work.Faithful start)
    (apart : work.Apart start)
    (now : Time)
    (text : List Char)
    (span : Nat) :
    Filled (work.cleared now text) (work.current now text) (work.reserved now) (desired text)
        (work.scanner.sweep now text span work.registry) ∧
      ∀ wanted ∈ desired text,
        (∃ item ∈ (work.sweep now text span).scanner.owned, item.name = wanted.1) ∨
          wanted.1 ∈ work.reserved now := by
  obtain ⟨filled, -, covered⟩ :=
    (faithful.filled_cleared apart now text).foldl now span (desired text) (List.Subset.refl _)
  exact ⟨filled, covered⟩

/-- Identities that were given out before stand for what is left of the entries
there were. -/
theorem Faithful.entry?_sweep_of_known
    (faithful : work.Faithful start)
    (apart : work.Apart start)
    (now : Time)
    (text : List Char)
    (span : Nat)
    {id : EntryId}
    (known : id.value < work.registry.nextId) :
    Registry.entry? (work.sweep now text span).registry id =
      Registry.entry? (work.cleared now text) id := by
  apply (faithful.filled_sweep apart now text span).1.old id
  rwa [faithful.nextId_cleared apart.static]

theorem mem_made_sweep
    (work : Work)
    (now : Time)
    (text : List Char)
    (span : Nat)
    (id : EntryId) :
    id ∈ (work.sweep now text span).made ↔
      id ∈ work.made ∨
        id ∈ (work.sweep now text span).registry.ids ∧ work.registry.nextId ≤ id.value := by
  simp [sweep]

/-- An identity in use before a sweep is not one that the sweep makes. -/
theorem Faithful.mem_made_sweep_of_live
    (faithful : work.Faithful start)
    {now : Time}
    {text : List Char}
    {span : Nat}
    {id : EntryId}
    (live : id ∈ work.registry.ids) :
    id ∈ (work.sweep now text span).made ↔ id ∈ work.made := by
  have known := faithful.consistent.value_lt_nextId live
  rw [mem_made_sweep]
  exact or_iff_left fun new => absurd known (Nat.not_lt.mpr new.2)

/-- A sweep changes nothing but what the scanner registered. -/
theorem Faithful.entry?_sweep_of_not_made
    (faithful : work.Faithful start)
    (apart : work.Apart start)
    (now : Time)
    (text : List Char)
    (span : Nat)
    {id : EntryId}
    (notMade : id ∉ (work.sweep now text span).made) :
    Registry.entry? (work.sweep now text span).registry id = work.registry.entry? id := by
  rw [mem_made_sweep, not_or] at notMade
  by_cases known : id.value < work.registry.nextId
  · have notStale : id ∉ work.stale now text := fun isStale =>
      notMade.1 (faithful.made_of_mem_stale isStale)
    rw [faithful.entry?_sweep_of_known apart now text span known, faithful.entry?_cleared apart,
      if_neg notStale]
    apply (faithful.query_variables apart.static now).2.untouched
    intro listed entry found
    obtain ⟨other, otherFound, ofKind⟩ := (faithful.consistent.mem_ofKind_iff .var id).mp listed
    rw [found] at otherFound
    cases otherFound
    exact apart.static (id, entry) (mem_of_entry?_eq_some found) notMade.1 ofKind
  · have absentBefore : id ∉ work.registry.ids := fun live =>
      known (faithful.consistent.value_lt_nextId live)
    have absentAfter : id ∉ (work.sweep now text span).registry.ids := fun live =>
      notMade.2 ⟨live, Nat.not_lt.mp known⟩
    rw [(entry?_eq_none_iff _ id).mpr absentBefore, (entry?_eq_none_iff _ id).mpr absentAfter]

theorem Faithful.taken_sweep_iff
    (faithful : work.Faithful start)
    (apart : work.Apart start)
    (now : Time)
    (text : List Char)
    (span : Nat)
    (name : String) :
    (work.sweep now text span).Taken name ↔ work.Taken name := by
  constructor
  · rintro ⟨id, notMade, has⟩
    have same := faithful.entry?_sweep_of_not_made apart now text span notMade
    refine ⟨id, fun made => notMade ((mem_made_sweep ..).mpr (Or.inl made)), has.congr ?_⟩
    rw [same]
  · rintro ⟨id, notMade, has⟩
    have stillNotMade : id ∉ (work.sweep now text span).made := by
      rwa [faithful.mem_made_sweep_of_live has.mem_ids]
    refine ⟨id, stillNotMade, has.congr ?_⟩
    rw [faithful.entry?_sweep_of_not_made apart now text span stillNotMade]

theorem Faithful.static_sweep
    (faithful : work.Faithful start)
    (apart : work.Apart start)
    (now : Time)
    (text : List Char)
    (span : Nat) :
    (work.sweep now text span).Static := by
  intro item member notMade ofKind
  have consistent := (faithful.filled_sweep apart now text span).1.consistent
  have found := (consistent.entry?_eq_some_iff item.1 item.2).mpr member
  have same := faithful.entry?_sweep_of_not_made apart now text span notMade
  have oldFound : work.registry.entry? item.1 = some item.2 := same.symm.trans found
  refine apart.static (item.1, item.2) (mem_of_entry?_eq_some oldFound) ?_ ofKind
  exact fun made => notMade ((mem_made_sweep ..).mpr (Or.inl made))

/-- After a sweep the scanner has done its work. -/
theorem Faithful.complete_sweep
    (faithful : work.Faithful start)
    (apart : work.Apart start)
    (now : Time)
    (text : List Char)
    (span : Nat) :
    (work.sweep now text span).Complete text := by
  obtain ⟨filled, covered⟩ := faithful.filled_sweep apart now text span
  refine ⟨?_, filled.wanted, ?_⟩
  · intro item owned
    obtain ⟨entry, found, -⟩ := filled.shown item owned
    exact (mem_ids_iff_exists _ item.id).mpr ⟨entry, found⟩
  · intro wanted listed
    rw [faithful.taken_sweep_iff apart, ← faithful.mem_reserved_iff apart.static now]
    exact covered wanted listed

/-- What the scanner registered earlier and is there after a sweep was current. -/
theorem Faithful.exists_current
    (faithful : work.Faithful start)
    (apart : work.Apart start)
    {now : Time}
    {text : List Char}
    {span : Nat}
    {id : EntryId}
    (made : id ∈ work.made)
    (live : id ∈ (work.sweep now text span).registry.ids) :
    ∃ item ∈ work.current now text, item.id = id := by
  obtain ⟨entry, found⟩ := (mem_ids_iff_exists _ id).mp live
  rw [faithful.entry?_sweep_of_known apart now text span (faithful.made_lt id made),
    faithful.entry?_cleared apart] at found
  obtain ⟨notStale, foundRead⟩ : id ∉ work.stale now text ∧
      Registry.entry? (work.read now) id = some entry := by
    split at found
    · cases found
    · exact ⟨‹_›, found⟩
  have wasLive : id ∈ work.registry.ids := by
    rw [← (faithful.query_variables apart.static now).2.ids_eq, mem_ids_iff_exists]
    exact ⟨entry, foundRead⟩
  -- It was noted, and what is noted is current or stale.
  obtain ⟨item, owned, rfl⟩ := faithful.made_owned id made wasLive
  refine ⟨item, List.mem_filter.mpr ⟨owned, ?_⟩, rfl⟩
  by_contra notCurrent
  apply notStale
  exact List.mem_map_of_mem (List.mem_filter.mpr ⟨owned, by simpa using notCurrent⟩)

/-- A sweep keeps what holds of a scanner at work. -/
theorem Faithful.sweep
    (faithful : work.Faithful start)
    (apart : work.Apart start)
    (now : Time)
    (text : List Char)
    (span : Nat) :
    (work.sweep now text span).Faithful start := by
  obtain ⟨filled, -⟩ := faithful.filled_sweep apart now text span
  have complete := faithful.complete_sweep apart now text span
  have nextIdEq := faithful.nextId_cleared apart.static now text
  have nextId_le : work.registry.nextId ≤ (work.sweep now text span).registry.nextId := by
    rw [← nextIdEq]
    exact filled.nextId_le
  refine
    { consistent := filled.consistent
      start_le := faithful.start_le.trans nextId_le
      made_lt := ?_
      owned_made := ?_
      made_owned := ?_
      names := filled.names
      shown := ?_
      free := ?_ }
  · intro id made
    rcases (mem_made_sweep ..).mp made with old | new
    · exact Nat.lt_of_lt_of_le (faithful.made_lt id old) nextId_le
    · exact filled.consistent.value_lt_nextId new.1
  · intro item owned
    rw [mem_made_sweep]
    rcases filled.adds item owned with kept | new
    · have wasOwned := ((faithful.mem_current_iff apart.static now text item).mp kept).1
      exact Or.inl (faithful.owned_made item wasOwned)
    · rw [nextIdEq] at new
      exact Or.inr ⟨complete.live item owned, new⟩
  · intro id made live
    rcases (mem_made_sweep ..).mp made with old | new
    · obtain ⟨item, isCurrent, sameId⟩ := faithful.exists_current apart old live
      exact ⟨item, filled.keeps isCurrent, sameId⟩
    · apply filled.new id live
      rw [nextIdEq]
      exact new.2
  · intro item owned entry found
    obtain ⟨other, otherFound, isShown⟩ := filled.shown item owned
    cases found.symm.trans otherFound
    exact isShown
  · intro item owned _
    rw [faithful.taken_sweep_iff apart, ← faithful.mem_reserved_iff apart.static now]
    exact filled.free item owned

/-- What is still declared as it was stays the same entry. -/
theorem Faithful.entry?_sweep_of_current
    (faithful : work.Faithful start)
    (apart : work.Apart start)
    (now : Time)
    {text : List Char}
    (span : Nat)
    {item : OwnedVariable}
    (isCurrent : item ∈ work.current now text) :
    (Registry.entry? (work.sweep now text span).registry item.id).map Entry.timeless =
      (work.registry.entry? item.id).map Entry.timeless := by
  have owned := ((faithful.mem_current_iff apart.static now text item).mp isCurrent).1
  have known := faithful.made_lt _ (faithful.owned_made item owned)
  rw [faithful.entry?_sweep_of_known apart now text span known,
    faithful.entry?_cleared_of_current apart isCurrent]

/-- A sweep finds nothing to do where the work is done. -/
theorem Faithful.holdings_sweep_of_complete
    (faithful : work.Faithful start)
    (static : work.Static)
    {text : List Char}
    (complete : work.Complete text)
    (now : Time)
    (span : Nat) :
    (work.sweep now text span).registry.holdings = work.registry.holdings := by
  have refreshed := (faithful.query_variables static now).2
  have allCurrent : work.current now text = work.scanner.owned := by
    rw [current, List.filter_eq_self]
    intro item owned
    have member := (faithful.mem_current_iff static now text item).mpr
      ⟨owned, complete.live item owned, complete.wanted item owned⟩
    exact (List.mem_filter.mp member).2
  -- Nothing is cleared away, and nothing is missing.
  have noneStale : work.stale now text = [] := by
    rw [stale, List.map_eq_nil_iff, List.filter_eq_nil_iff]
    intro item owned
    have member : item ∈ work.current now text := by rwa [allCurrent]
    simp [(List.mem_filter.mp member).2]
  have clearedEq : work.cleared now text = work.read now := by
    rw [cleared, noneStale, removeAll]
  have nothingMissing := foldl_addVariable_of_taken now span (work.reserved now)
    (work.scanner, work.read now) (desired text) (by
      intro wanted listed
      rw [faithful.mem_reserved_iff static]
      exact complete.covered wanted listed)
  have registryEq : (work.sweep now text span).registry = work.read now := by
    change (work.scanner.sweep now text span work.registry).2 = _
    rw [scanner_sweep_eq, allCurrent, clearedEq]
    exact congrArg Prod.snd nothingMissing
  rw [registryEq]
  exact refreshed.holdings_eq

end Parts

end Work
end JspCompletion
