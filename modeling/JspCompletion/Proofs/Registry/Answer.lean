import JspCompletion.Proofs.Registry.Reading

/-!
# Answers of a query and what is there afterwards

A query reads its candidates in the order of their identities.  Where every
entry was put under an owner that was given out before, owners are older than
what belongs to them, so a removal takes out younger entries only: none that
was read before.  Hence a query answers with what is there when it is done,
whatever the plans of its candidates decide on the way.

An entry under an identity that is yet to be given out may be read, and go
later with its owner; so the order of owners cannot be left out.
-/

namespace JspCompletion

/-- What it means to be selected. -/
theorem Query.selects_iff
    (query : Query)
    (element : Descriptor) :
    query.selects element = true ↔
      (∀ kind, query.kind = some kind → element.kind = kind) ∧
        ∀ rule ∈ query.rules, rule.accepts element = true := by
  rw [selects, Bool.and_eq_true, List.all_eq_true]
  cases query.kind with
  | none => simp
  | some kind =>
      simp only [Option.all_some, beq_iff_eq, Option.some.injEq, forall_eq']
      exact and_congr_left fun _ => eq_comm

namespace Registry

/-! ## Owners that are older -/

/-- Every owner was given out before what belongs to it. -/
def OwnersOlder (registry : Registry) : Prop :=
  ∀ item ∈ registry.entries, ∀ owner, item.2.owner = some owner → owner.value < item.1.value

theorem ownersOlder_empty : OwnersOlder {} := by
  intro item member
  cases member

/-- What falls is no older than one of the roots. -/
theorem Falls.exists_root_le
    {registry : Registry}
    {roots : List EntryId}
    {id : EntryId}
    (falls : registry.Falls roots id)
    (older : registry.OwnersOlder) :
    ∃ root ∈ roots, root.value ≤ id.value := by
  induction falls with
  | @root id listed _ => exact ⟨id, listed, Nat.le_refl _⟩
  | @owned item owner member belongs _ inductionHypothesis =>
      obtain ⟨root, listed, le⟩ := inductionHypothesis
      exact ⟨root, listed, Nat.le_trans le (Nat.le_of_lt (older item member owner belongs))⟩

theorem Reread.ownersOlder
    {now : Time}
    {ids : List EntryId}
    {before after : Registry}
    (read : Reread now ids before after)
    (older : before.OwnersOlder) :
    after.OwnersOlder := by
  intro item member owner belongs
  have found := (read.consistent.entry?_eq_some_iff item.1 item.2).mpr member
  obtain ⟨-, old, oldFound, sameOwner, -⟩ := read.exists_before found
  exact older (item.1, old) (mem_of_entry?_eq_some oldFound) owner (sameOwner.trans belongs)

namespace OwnersOlder

variable {registry : Registry}

theorem removeAll
    (older : registry.OwnersOlder)
    (consistent : registry.Consistent)
    (roots : List EntryId) :
    (registry.removeAll roots).OwnersOlder := by
  obtain ⟨all, equal, -⟩ := consistent.removeAll_eq_without roots
  rw [equal]
  intro item member
  exact older item (List.mem_of_mem_filter member)

theorem add
    (older : registry.OwnersOlder)
    (now : Time)
    (element : Descriptor)
    (owner : Option EntryId)
    (lifetime : Option Lifetime)
    (known : ∀ parent, owner = some parent → parent.value < registry.nextId) :
    (registry.add now element owner lifetime).2.OwnersOlder := by
  intro item member parent belongs
  rcases List.mem_append.mp member with old | new
  · exact older item old parent belongs
  · rw [List.mem_singleton.mp new] at belongs ⊢
    exact known parent belongs

theorem addAll
    (older : registry.OwnersOlder)
    (now : Time)
    (owner : EntryId)
    (elements : List Descriptor)
    (known : owner.value < registry.nextId) :
    (registry.addAll now (some owner) elements).OwnersOlder := by
  induction elements generalizing registry with
  | nil => exact older
  | cons element rest inductionHypothesis =>
      refine inductionHypothesis (older.add now element (some owner) none ?_)
        (Nat.lt_succ_of_lt known)
      rintro parent ⟨⟩
      exact known

end OwnersOlder

/-- The candidates of a query stand in the order of their identities. -/
theorem Consistent.candidates_increasing
    {registry : Registry}
    (consistent : registry.Consistent)
    (query : Query) :
    (registry.candidates query).Pairwise fun left right => left.value < right.value := by
  rw [consistent.candidates_eq_filter, List.pairwise_map]
  exact consistent.increasing.filter _

theorem Consistent.candidates_nodup
    {registry : Registry}
    (consistent : registry.Consistent)
    (query : Query) :
    (registry.candidates query).Nodup := by
  refine (consistent.candidates_increasing query).imp ?_
  rintro left right less rfl
  exact Nat.lt_irrefl _ less

/-- A query reads its candidates. -/
theorem Consistent.reread_query
    {registry : Registry}
    (consistent : registry.Consistent)
    (now : Time)
    (query : Query) :
    Reread now (registry.candidates query) registry (registry.query now query).2 :=
  consistent.reread_readAll now query _ (consistent.candidates_nodup query)

theorem OwnersOlder.importLibrary
    {registry : Registry}
    (older : registry.OwnersOlder)
    (consistent : registry.Consistent)
    (now : Time)
    (library : TagLibrary) :
    (registry.importLibrary now library).2.OwnersOlder := by
  let sameUri : Query :=
    { kind := some .library
      rules := [{ property := "uri", values := [library.uri] }] }
  have read := consistent.reread_query now sameUri
  have removed := (read.ownersOlder older).removeAll read.consistent
    ((registry.query now sameUri).1.map (·.1))
  exact (removed.add now (.library library) none none (by simp)).addAll now _ _
    (Nat.lt_succ_self _)

/-! ## Runs -/

/-- The owner named by a step, if any, was given out before. -/
def OwnerKnown (registry : Registry) (step : Step) : Prop :=
  match step.operation with
  | .add _ (some owner) _ => owner.value < registry.nextId
  | _ => True

/-- Every step of a run names an owner that was given out before, or none. -/
def OwnersKnown (registry : Registry) : List Step → Prop
  | [] => True
  | step :: rest => registry.OwnerKnown step ∧ (registry.after step).OwnersKnown rest

theorem OwnersOlder.after
    {registry : Registry}
    (older : registry.OwnersOlder)
    (consistent : registry.Consistent)
    (step : Step)
    (known : registry.OwnerKnown step) :
    (registry.after step).OwnersOlder := by
  obtain ⟨now, operation⟩ := step
  cases operation with
  | add element owner lifetime =>
      refine older.add now element owner lifetime ?_
      rintro parent rfl
      exact known
  | remove id =>
      simp only [Registry.after, remove]
      cases registry.entry? id with
      | none => exact older
      | some entry => exact older.removeAll consistent [id]
  | get id => exact (consistent.reread_get now id).ownersOlder older
  | query query => exact (consistent.reread_query now query).ownersOlder older
  | importLibrary library => exact older.importLibrary consistent now library

theorem OwnersOlder.run
    {registry : Registry}
    (older : registry.OwnersOlder)
    (consistent : registry.Consistent)
    (steps : List Step)
    (known : registry.OwnersKnown steps) :
    (registry.run steps).OwnersOlder := by
  induction steps generalizing registry with
  | nil => exact older
  | cons step rest inductionHypothesis =>
      exact inductionHypothesis (older.after consistent step known.1)
        (consistent.evolves_after step).consistent known.2

/-! ## Answers -/

/-- Read in the order of their identities, entries are answered as they are in
the end. -/
theorem Consistent.readAll_fst_eq
    {registry : Registry}
    (consistent : registry.Consistent)
    (older : registry.OwnersOlder)
    (now : Time)
    (query : Query)
    (ids : List EntryId)
    (increasing : ids.Pairwise fun left right => left.value < right.value) :
    (registry.readAll now query ids).1 =
      ids.filterMap ((registry.readAll now query ids).2.selected? query) := by
  induction ids generalizing registry with
  | nil => rfl
  | cons id rest inductionHypothesis =>
      obtain ⟨first, increasingRest⟩ := List.pairwise_cons.mp increasing
      have read := consistent.reread_get now id
      have olderRead := read.ownersOlder older
      have nodupRest : rest.Nodup := increasingRest.imp fun less same => by
        rw [same] at less
        exact Nat.lt_irrefl _ less
      have readRest := read.consistent.reread_readAll now query rest nodupRest
      -- What goes later is younger than the roots, and these are younger than the first.
      have stays : ¬(registry.get now id).2.Falls
          ((registry.get now id).2.doomed now rest) id := by
        intro falls
        obtain ⟨root, listed, le⟩ := falls.exists_root_le olderRead
        have less := first root ((mem_doomed_iff ..).mp listed).1
        omega
      have notRead : id ∉ rest := fun member => Nat.lt_irrefl _ (first id member)
      have same : ((registry.get now id).2.readAll now query rest).2.selected? query id =
          (registry.get now id).2.selected? query id := by
        rw [selected?, selected?, readRest.left id stays]
        simp [notRead]
      rw [consistent.readAll_cons_fst, readAll_cons_registry, List.filterMap_cons, same,
        inductionHypothesis read.consistent olderRead increasingRest]
      cases (registry.get now id).2.selected? query id <;> rfl

theorem selected?_eq_some_iff
    (registry : Registry)
    (query : Query)
    (id : EntryId)
    (answer : EntryId × Descriptor) :
    registry.selected? query id = some answer ↔
      id = answer.1 ∧ ∃ entry, registry.entry? id = some entry ∧ entry.element = answer.2 ∧
        query.selects answer.2 = true := by
  obtain ⟨other, element⟩ := answer
  simp only [selected?, Option.bind_eq_some_iff, Option.map_eq_some_iff]
  constructor
  · rintro ⟨_, ⟨entry, found, rfl⟩, chosen⟩
    split at chosen
    · rename_i selected
      cases chosen
      exact ⟨rfl, entry, found, rfl, selected⟩
    · cases chosen
  · rintro ⟨rfl, entry, found, rfl, selected⟩
    exact ⟨entry.element, ⟨entry, found, rfl⟩, by simp [selected]⟩

/-- What was answered and is still there is there as it was answered. -/
theorem Consistent.selected?_of_mem_readAll
    {registry : Registry}
    (consistent : registry.Consistent)
    (now : Time)
    (query : Query)
    (ids : List EntryId)
    (nodup : ids.Nodup)
    {answer : EntryId × Descriptor}
    (answered : answer ∈ (registry.readAll now query ids).1)
    (live : answer.1 ∈ (registry.readAll now query ids).2.ids) :
    (registry.readAll now query ids).2.selected? query answer.1 = some answer := by
  induction ids generalizing registry with
  | nil => cases answered
  | cons id rest inductionHypothesis =>
      obtain ⟨new, nodupRest⟩ := List.nodup_cons.mp nodup
      have consistentRead := (consistent.evolves_get now id).consistent
      rw [consistent.readAll_cons_fst, List.mem_append] at answered
      rw [readAll_cons_registry] at live ⊢
      rcases answered with first | later
      · -- It was read first, and not again.
        rw [Option.mem_toList, selected?_eq_some_iff] at first
        obtain ⟨rfl, entry, found, element, selected⟩ := first
        have read := consistentRead.reread_readAll now query rest nodupRest
        obtain ⟨left, leftFound⟩ := (mem_ids_iff_exists ..).mp live
        have oldFound := read.entry?_before new leftFound
        rw [found, Option.some.injEq] at oldFound
        rw [selected?_eq_some_iff]
        exact ⟨rfl, left, leftFound, oldFound ▸ element, selected⟩
      · exact inductionHypothesis consistentRead nodupRest later live

/-- What a query selects in the end was among its candidates: other entries were
not read, so they have the kind that they had. -/
theorem Consistent.mem_candidates_of_selects
    {registry : Registry}
    (consistent : registry.Consistent)
    (now : Time)
    (query : Query)
    {id : EntryId}
    {entry : Entry}
    (found : Registry.entry? (registry.query now query).2 id = some entry)
    (selected : query.selects entry.element = true) :
    id ∈ registry.candidates query := by
  by_contra notRead
  have oldFound := (consistent.reread_query now query).entry?_before notRead found
  apply notRead
  rw [consistent.candidates_eq_filter]
  refine List.mem_map_of_mem (List.mem_filter.mpr ⟨mem_of_entry?_eq_some oldFound, ?_⟩)
  rw [Query.selects, Bool.and_eq_true] at selected
  exact selected.1

/-- A candidate has the kind of the query. -/
theorem Consistent.kind_of_mem_candidates
    {registry : Registry}
    (consistent : registry.Consistent)
    (query : Query)
    {id : EntryId}
    {entry : Entry}
    (listed : id ∈ registry.candidates query)
    (found : registry.entry? id = some entry) :
    ∀ kind, query.kind = some kind → entry.element.kind = kind := by
  rw [consistent.candidates_eq_filter] at listed
  obtain ⟨item, member, rfl⟩ := List.mem_map.mp listed
  obtain ⟨stored, ofKind⟩ := List.mem_filter.mp member
  have same := (consistent.entry?_eq_some_iff item.1 item.2).mpr stored
  rw [same, Option.some.injEq] at found
  rw [← found]
  intro kind kindEq
  simp only [kindEq, Option.all_some, beq_iff_eq] at ofKind
  exact ofKind.symm

/-- In every registry whose entries were put under owners that were given out
before, and whatever their plans decide, a query answers with exactly the
entries that have its kind and pass its rules when it is done, in the order of
their identities.  Gone is what falls with the entries that remove themselves,
and of the rest everything is as it was that did not have the kind of the query
and a life that has passed. -/
theorem query_answers_what_is_there
    (steps : List Step)
    (known : OwnersKnown {} steps)
    (now : Time)
    (query : Query) :
    let before := run {} steps
    let answer := (before.query now query).1
    let after := (before.query now query).2
    let removing := before.doomed now (before.candidates query)
    (∀ id element, (id, element) ∈ answer ↔
      ∃ entry, after.entry? id = some entry ∧ entry.element = element ∧
        (∀ kind, query.kind = some kind → element.kind = kind) ∧
        ∀ rule ∈ query.rules, rule.accepts element = true) ∧
    answer.Pairwise (fun left right => left.1.value < right.1.value) ∧
    ∀ id entry, before.entry? id = some entry →
      (before.Falls removing id → after.entry? id = none) ∧
      (¬before.Falls removing id →
        ¬((∀ kind, query.kind = some kind → entry.element.kind = kind) ∧
          isExpired entry now = true) →
        after.entry? id = some entry) := by
  intro before answer after removing
  have consistent : before.Consistent := consistent_run steps
  have older : before.OwnersOlder := ownersOlder_empty.run consistent_empty steps known
  have read : Reread now (before.candidates query) before after :=
    consistent.reread_query now query
  have increasing := consistent.candidates_increasing query
  have answerEq : answer = (before.candidates query).filterMap (after.selected? query) :=
    consistent.readAll_fst_eq older now query _ increasing
  refine ⟨?_, ?_, ?_⟩
  · intro id element
    rw [answerEq, List.mem_filterMap]
    simp only [selected?_eq_some_iff, ← Query.selects_iff]
    constructor
    · rintro ⟨_, -, rfl, chosen⟩
      exact chosen
    · rintro ⟨entry, found, rfl, selected⟩
      exact ⟨id, consistent.mem_candidates_of_selects now query found selected, rfl, entry, found,
        rfl, selected⟩
  · rw [answerEq]
    refine increasing.filterMap _ ?_
    intro left right less leftAnswer leftSelected rightAnswer rightSelected
    rw [← ((selected?_eq_some_iff ..).mp leftSelected).1,
      ← ((selected?_eq_some_iff ..).mp rightSelected).1]
    exact less
  · intro id entry found
    refine ⟨read.gone id, ?_⟩
    intro stays notDue
    rw [read.left id stays, found, Option.map_some, Option.some.injEq]
    split
    · rename_i listed
      have ofKind := consistent.kind_of_mem_candidates query listed found
      have fresh : isExpired entry now = false := by
        rw [Bool.eq_false_iff]
        exact fun expired => notDue ⟨ofKind, expired⟩
      simp [Entry.reread, fresh]
    · rfl

/-- A variable that removes itself, another that belongs to it, a third that turns
into a keyword and a fourth that stays. -/
def sampleVariables : List Step :=
  let name : Name := ⟨"x", by decide⟩
  let plain : Descriptor := .var { name, typeName := "", description := "" }
  let keyword : Descriptor := .keyword { name, fullName := "", description := "" }
  [ ⟨0, .add plain none (some { span := 5, plan := [.remove] })⟩,
    ⟨0, .add plain (some ⟨0⟩) none⟩,
    ⟨0, .add plain none (some { span := 5, plan := [.replace keyword] })⟩,
    ⟨0, .add plain none none⟩ ]

/-- Once their lives have passed, a query for variables finds the fourth only. -/
theorem sampleVariables_query_answers :
    let before := run {} sampleVariables
    let answer := (before.query 9 { kind := some .var }).1
    let after := (before.query 9 { kind := some .var }).2
    OwnersKnown {} sampleVariables ∧
      answer.map (·.1) = [⟨3⟩] ∧ after.ids = [⟨2⟩, ⟨3⟩] ∧
      (∀ id element, (id, element) ∈ answer →
        ∃ entry, after.entry? id = some entry ∧ entry.element = element) := by
  intro before answer after
  have known : OwnersKnown {} sampleVariables := by
    refine ⟨trivial, ?_, trivial, trivial, trivial⟩
    exact Nat.zero_lt_one
  refine ⟨known, by decide +kernel, by decide +kernel, ?_⟩
  intro id element answered
  obtain ⟨entry, found, same, -⟩ :=
    ((query_answers_what_is_there sampleVariables known 9 { kind := some .var }).1 id element).mp
      answered
  exact ⟨entry, found, same⟩

end Registry
end JspCompletion
