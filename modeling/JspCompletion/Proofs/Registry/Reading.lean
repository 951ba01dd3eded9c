import JspCompletion.Proofs.Registry.Steady

/-!
# What reading leaves behind

Reading an entry whose life has passed may change or remove it, and with a
removed entry goes everything that belongs to it, also entries that were still
to be read.  Yet what is left after reading a list of entries can be told from
the registry as it was: gone is what falls with the entries of the list that
remove themselves, the other entries of the list are as their own decisions
made them, and all else is untouched.  The order of reading plays no part.

What was read and is still there at the end was answered as it is there.  The
converse needs that no entry is removed after it was answered, and is not shown
here.
-/

namespace JspCompletion

namespace Entry

/-- The decision that is taken once the life of the entry has passed. -/
def decision (entry : Entry) : Refresh :=
  (entry.lifetime.map Lifetime.decision).getD .keep

/-- The entry after its plan was asked and did not remove it. -/
def asked (entry : Entry) (now : Time) : Entry :=
  match entry.decision with
  | .replace element =>
      { entry with element, lifetime := entry.lifetime.map Lifetime.next, lastChanged := now }
  | _ => { entry with lifetime := entry.lifetime.map Lifetime.next, lastChanged := now }

/-- The entry after it was read and not removed. -/
def reread (entry : Entry) (now : Time) : Entry :=
  if Registry.isExpired entry now then entry.asked now else entry

/-- Reading the entry removes it. -/
def isDoomed (entry : Entry) (now : Time) : Bool :=
  Registry.isExpired entry now && entry.decision == .remove

@[simp] theorem owner_reread (entry : Entry) (now : Time) :
    (entry.reread now).owner = entry.owner := by
  unfold reread asked
  split
  · split <;> rfl
  · rfl

theorem reread_of_fresh
    {entry : Entry}
    {now : Time}
    (fresh : Registry.isExpired entry now = false) :
    entry.reread now = entry := by
  simp [reread, fresh]

end Entry

namespace Registry

/-- The entries of a list that remove themselves when they are read. -/
def doomed (registry : Registry) (now : Time) (ids : List EntryId) : List EntryId :=
  ids.filter fun id => (registry.entry? id).any (·.isDoomed now)

theorem mem_doomed_iff
    (registry : Registry)
    (now : Time)
    (ids : List EntryId)
    (id : EntryId) :
    id ∈ registry.doomed now ids ↔
      id ∈ ids ∧ ∃ entry, registry.entry? id = some entry ∧ entry.isDoomed now = true := by
  rw [doomed, List.mem_filter, Option.any_eq_true]

/-! ## What falls -/

/-- What falls in one registry falls in another that has its entries under the
same owners, with no fewer roots. -/
theorem Falls.imp
    {before after : Registry}
    {roots more : List EntryId}
    {id : EntryId}
    (falls : before.Falls roots id)
    (consistent : before.Consistent)
    (subset : roots ⊆ more)
    (owners : ∀ id entry, before.entry? id = some entry →
      ∃ other, after.entry? id = some other ∧ other.owner = entry.owner) :
    after.Falls more id := by
  induction falls with
  | root listed live =>
      obtain ⟨entry, found⟩ := (mem_ids_iff_exists before _).mp live
      obtain ⟨other, otherFound, -⟩ := owners _ entry found
      exact Falls.root (subset listed) ((mem_ids_iff_exists after _).mpr ⟨other, otherFound⟩)
  | @owned item owner member belongs _ ownerFalls =>
      have found := (consistent.entry?_eq_some_iff item.1 item.2).mpr member
      obtain ⟨other, otherFound, sameOwner⟩ := owners item.1 item.2 found
      exact @Falls.owned after more (item.1, other) owner (mem_of_entry?_eq_some otherFound)
        (sameOwner.trans belongs) ownerFalls

/-- Nothing falls without a root. -/
theorem not_falls_nil (registry : Registry) (id : EntryId) : ¬registry.Falls [] id := by
  intro falls
  induction falls with
  | root listed _ => cases listed
  | owned _ _ _ ownerFalls => exact ownerFalls

/-- Only the roots that are there matter. -/
theorem Falls.of_live_roots
    {registry : Registry}
    {roots others : List EntryId}
    {id : EntryId}
    (falls : registry.Falls roots id)
    (listed : ∀ root ∈ roots, root ∈ registry.ids → root ∈ others) :
    registry.Falls others id := by
  induction falls with
  | root isRoot live => exact Falls.root (listed _ isRoot live) live
  | owned member belongs _ inductionHypothesis =>
      exact Falls.owned member belongs inductionHypothesis

/-! ## Reading one entry -/

/-- What reading the entries of a list leaves: those that remove themselves are
gone with everything that belongs to them, the others of the list are as after
their reading, and all else is as it was. -/
structure Reread (now : Time) (ids : List EntryId) (before after : Registry) : Prop where
  consistent : after.Consistent
  nextId : after.nextId = before.nextId
  gone : ∀ id, before.Falls (before.doomed now ids) id → after.entry? id = none
  left : ∀ id, ¬before.Falls (before.doomed now ids) id →
    after.entry? id = (before.entry? id).map fun entry =>
      if id ∈ ids then entry.reread now else entry

/-- Nothing is read that would change. -/
theorem Consistent.reread_self
    {registry : Registry}
    (consistent : registry.Consistent)
    (now : Time)
    (ids : List EntryId)
    (fresh : ∀ id ∈ ids, ∀ entry, registry.entry? id = some entry →
      isExpired entry now = false) :
    Reread now ids registry registry := by
  have noneDoomed : registry.doomed now ids = [] := by
    rw [List.eq_nil_iff_forall_not_mem]
    intro id listed
    obtain ⟨member, entry, found, isDoomed⟩ := (mem_doomed_iff ..).mp listed
    simp [Entry.isDoomed, fresh id member entry found] at isDoomed
  refine ⟨consistent, rfl, ?_, ?_⟩
  · intro id falls
    rw [noneDoomed] at falls
    exact absurd falls (not_falls_nil registry id)
  · intro id _
    cases found : registry.entry? id with
    | none => rfl
    | some entry =>
        by_cases listed : id ∈ ids
        · simp [listed, Entry.reread_of_fresh (fresh id listed entry found)]
        · simp [listed]

/-- A change in place of the entry that is read. -/
theorem reread_update
    {registry after : Registry}
    {now : Time}
    {id : EntryId}
    {entry : Entry}
    (consistent : after.Consistent)
    (nextId : after.nextId = registry.nextId)
    (found : registry.entry? id = some entry)
    (stays : entry.isDoomed now = false)
    (change : Entry → Entry)
    (entries : after.entries = (registry.update id change).entries)
    (changed : change entry = entry.reread now) :
    Reread now [id] registry after := by
  have noneDoomed : registry.doomed now [id] = [] := by
    simp [doomed, found, stays]
  refine ⟨consistent, nextId, ?_, ?_⟩
  · intro other falls
    rw [noneDoomed] at falls
    exact absurd falls (not_falls_nil registry other)
  · intro other _
    have otherEq := entry?_update registry id other change
    rw [ entry?, ← entries] at otherEq
    refine Eq.trans otherEq ?_
    by_cases same : other = id
    · simp [same, found, changed]
    · cases registry.entry? other <;> simp [same]

theorem entry?_ask
    (registry : Registry)
    (now : Time)
    (id other : EntryId) :
    Registry.entry? (registry.ask now id) other =
      if other = id then
        (registry.entry? other).map fun entry =>
          { entry with lifetime := entry.lifetime.map Lifetime.next }
      else registry.entry? other :=
  entry?_update { registry with calls := { entry := id, time := now } :: registry.calls } id other
    fun entry => { entry with lifetime := entry.lifetime.map Lifetime.next }

/-- Asking a plan changes no owner, so the same entries fall. -/
theorem Consistent.falls_ask_iff
    {registry : Registry}
    (consistent : registry.Consistent)
    (now : Time)
    (id : EntryId)
    (roots : List EntryId)
    (other : EntryId) :
    (registry.ask now id).Falls roots other ↔ registry.Falls roots other := by
  constructor
  · intro falls
    refine falls.imp (consistent.evolves_ask now id).consistent (List.Subset.refl _) ?_
    intro known entry found
    rw [entry?_ask] at found
    split at found
    · obtain ⟨old, oldFound, rfl⟩ := Option.map_eq_some_iff.mp found
      exact ⟨old, oldFound, rfl⟩
    · exact ⟨entry, found, rfl⟩
  · intro falls
    refine falls.imp consistent (List.Subset.refl _) ?_
    intro known entry found
    rw [entry?_ask, found]
    split
    · exact ⟨_, rfl, rfl⟩
    · exact ⟨entry, rfl, rfl⟩

/-- Reading one entry, in all the ways in which it can go. -/
theorem Consistent.reread_get
    {registry : Registry}
    (consistent : registry.Consistent)
    (now : Time)
    (id : EntryId) :
    Reread now [id] registry (registry.get now id).2 := by
  have consistentAfter := (consistent.evolves_get now id).consistent
  revert consistentAfter
  unfold get
  cases found : registry.entry? id with
  | none =>
      intro _
      refine consistent.reread_self now [id] ?_
      intro other listed entry otherFound
      rw [List.mem_singleton.mp listed, found] at otherFound
      cases otherFound
  | some entry =>
      by_cases expired : isExpired entry now = true
      · simp only [expired, if_true]
        have decisionEq : (entry.lifetime.map Lifetime.decision).getD .keep = entry.decision := rfl
        rw [decisionEq]
        intro consistentAfter
        cases decision : entry.decision with
        | keep =>
            rw [decision] at consistentAfter
            refine reread_update consistentAfter rfl found ?_ _
              (registry.entries_update_ask now id fun entry => { entry with lastChanged := now }) ?_
            · simp [Entry.isDoomed, decision]
            · simp [Entry.reread, expired, Entry.asked, decision]
        | replace element =>
            rw [decision] at consistentAfter
            refine reread_update consistentAfter rfl found ?_ _
              (registry.entries_update_ask now id fun entry =>
                { entry with element, lastChanged := now }) ?_
            · simp [Entry.isDoomed, decision]
            · simp [Entry.reread, expired, Entry.asked, decision]
        | remove =>
            rw [decision] at consistentAfter
            have isDoomed : registry.doomed now [id] = [id] := by
              simp [doomed, found, Entry.isDoomed, expired, decision]
            obtain ⟨all, equal, falling⟩ :=
              (consistent.evolves_ask now id).consistent.removeAll_eq_without_falling [id]
            have goes (other : EntryId) : other ∈ all ↔ registry.Falls [id] other :=
              (falling other).trans (consistent.falls_ask_iff now id [id] other)
            refine ⟨consistentAfter, ?_, ?_, ?_⟩
            · simp only [decide, equal]
              rfl
            · intro other falls
              rw [isDoomed] at falls
              simp only [decide, equal, entry?_without, (goes other).mpr falls, if_true]
            · intro other stays
              rw [isDoomed] at stays
              have notRead : other ≠ id := by
                rintro rfl
                exact stays (Falls.root List.mem_cons_self
                  ((mem_ids_iff_exists registry other).mpr ⟨entry, found⟩))
              have kept : other ∉ all := fun gone => stays ((goes other).mp gone)
              simp only [decide, equal, entry?_without, kept, if_false, entry?_ask, notRead,
                List.mem_singleton]
              simp
      · simp only [expired, Bool.false_eq_true, if_false]
        intro _
        refine consistent.reread_self now [id] ?_
        intro other listed otherEntry otherFound
        rw [List.mem_singleton.mp listed, found] at otherFound
        cases otherFound
        simpa using expired

/-- Reading gives the element as it is afterwards. -/
theorem Consistent.get_fst
    {registry : Registry}
    (consistent : registry.Consistent)
    (now : Time)
    (id : EntryId) :
    (registry.get now id).1 = ( Registry.entry? (registry.get now id).2 id).map Entry.element := by
  have read := consistent.reread_get now id
  cases found : registry.entry? id with
  | none => simp [get, found]
  | some entry =>
      have live := (mem_ids_iff_exists registry id).mpr ⟨entry, found⟩
      have decisionEq : (entry.lifetime.map Lifetime.decision).getD .keep = entry.decision := rfl
      have left (stays : entry.isDoomed now = false) :
          Registry.entry? (registry.get now id).2 id = some (entry.reread now) := by
        have noneDoomed : registry.doomed now [id] = [] := by
          simp [doomed, found, stays]
        rw [read.left id (by rw [noneDoomed]; exact not_falls_nil registry id), found]
        simp
      by_cases expired : isExpired entry now = true
      · cases decision : entry.decision with
        | remove =>
            have isDoomed : id ∈ registry.doomed now [id] :=
              (mem_doomed_iff ..).mpr
                ⟨List.mem_cons_self, entry, found, by simp [Entry.isDoomed, expired, decision]⟩
            rw [read.gone id (Falls.root isDoomed live)]
            simp [get, found, expired, decisionEq, decision, decide]
        | keep =>
            rw [left (by simp [Entry.isDoomed, decision])]
            simp [get, found, expired, decisionEq, decision, decide, Entry.reread, Entry.asked]
        | replace element =>
            rw [left (by simp [Entry.isDoomed, decision])]
            simp [get, found, expired, decisionEq, decision, decide, Entry.reread, Entry.asked]
      · rw [left (by simp [Entry.isDoomed, expired])]
        simp [get, found, expired, Entry.reread]

/-! ## Reading many entries -/

namespace Reread

variable {now : Time} {ids : List EntryId} {before after : Registry}

/-- What is there after reading stayed, and is as reading left it. -/
theorem exists_reread
    (read : Reread now ids before after)
    {id : EntryId}
    {entry : Entry}
    (found : after.entry? id = some entry) :
    ¬before.Falls (before.doomed now ids) id ∧
      ∃ old, before.entry? id = some old ∧
        entry = if id ∈ ids then old.reread now else old := by
  have stays : ¬before.Falls (before.doomed now ids) id := by
    intro falls
    rw [read.gone id falls] at found
    cases found
  rw [read.left id stays] at found
  obtain ⟨old, oldFound, same⟩ := Option.map_eq_some_iff.mp found
  exact ⟨stays, old, oldFound, same.symm⟩

/-- What is there after reading was there before, under the same owner. -/
theorem exists_before
    (read : Reread now ids before after)
    {id : EntryId}
    {entry : Entry}
    (found : after.entry? id = some entry) :
    ¬before.Falls (before.doomed now ids) id ∧
      ∃ old, before.entry? id = some old ∧ old.owner = entry.owner ∧
        (id ∉ ids → entry = old) := by
  obtain ⟨stays, old, oldFound, rfl⟩ := read.exists_reread found
  refine ⟨stays, old, oldFound, ?_, ?_⟩
  · split
    · rw [Entry.owner_reread]
    · rfl
  · intro notRead
    rw [if_neg notRead]

/-- What is there without having been read was there before. -/
theorem entry?_before
    (read : Reread now ids before after)
    {id : EntryId}
    (notRead : id ∉ ids)
    {entry : Entry}
    (found : after.entry? id = some entry) :
    before.entry? id = some entry := by
  obtain ⟨-, old, oldFound, -, same⟩ := read.exists_before found
  rw [same notRead]
  exact oldFound

/-- Reading brings nothing in. -/
theorem contains_before
    (read : Reread now ids before after)
    {id : EntryId}
    (live : after.contains id = true) :
    before.contains id = true := by
  obtain ⟨entry, found⟩ := (contains_iff_exists ..).mp live
  obtain ⟨-, old, oldFound, -⟩ := read.exists_before found
  exact (contains_iff_exists ..).mpr ⟨old, oldFound⟩

/-- What stays is there after reading, under the same owner. -/
theorem exists_after
    (read : Reread now ids before after)
    {id : EntryId}
    {old : Entry}
    (found : before.entry? id = some old)
    (stays : ¬before.Falls (before.doomed now ids) id) :
    ∃ entry, after.entry? id = some entry ∧ entry.owner = old.owner ∧
      (id ∉ ids → entry = old) := by
  refine ⟨_, by rw [read.left id stays, found, Option.map_some], ?_, ?_⟩
  · split
    · rw [Entry.owner_reread]
    · rfl
  · intro notRead
    rw [if_neg notRead]

/-- What falls when a list is read falls with its first entry, or with the others
once the first was read. -/
theorem falls_cons_iff
    {between : Registry}
    {id : EntryId}
    {rest : List EntryId}
    (consistent : before.Consistent)
    (first : Reread now [id] before between)
    (new : id ∉ rest)
    (other : EntryId) :
    before.Falls (before.doomed now (id :: rest)) other ↔
      before.Falls (before.doomed now [id]) other ∨
        between.Falls (between.doomed now rest) other := by
  have notFirst {later : EntryId} (listed : later ∈ rest) : later ∉ [id] := by
    rw [List.mem_singleton]
    rintro rfl
    exact new listed
  constructor
  · intro falls
    induction falls with
    | @root other listed live =>
        obtain ⟨member, entry, found, isDoomed⟩ := (mem_doomed_iff ..).mp listed
        rcases List.mem_cons.mp member with rfl | later
        · exact Or.inl (Falls.root ((mem_doomed_iff ..).mpr
            ⟨List.mem_cons_self, entry, found, isDoomed⟩) live)
        · by_cases goes : before.Falls (before.doomed now [id]) other
          · exact Or.inl goes
          · obtain ⟨left, leftFound, -, same⟩ := first.exists_after found goes
            obtain rfl := same (notFirst later)
            exact Or.inr (Falls.root ((mem_doomed_iff ..).mpr ⟨later, left, leftFound, isDoomed⟩)
              ((mem_ids_iff_exists between other).mpr ⟨left, leftFound⟩))
    | @owned item owner member belongs _ ownerFalls =>
        by_cases goes : before.Falls (before.doomed now [id]) item.1
        · exact Or.inl goes
        · rcases ownerFalls with ownerGoes | ownerGoes
          · exact absurd (Falls.owned member belongs ownerGoes) goes
          · have found := (consistent.entry?_eq_some_iff item.1 item.2).mpr member
            obtain ⟨left, leftFound, sameOwner, -⟩ := first.exists_after found goes
            exact Or.inr (@Falls.owned between _ (item.1, left) owner
              (mem_of_entry?_eq_some leftFound) (sameOwner.trans belongs) ownerGoes)
  · rintro (falls | falls)
    · refine falls.imp consistent ?_ fun _ entry found => ⟨entry, found, rfl⟩
      intro root listed
      obtain ⟨member, isDoomed⟩ := (mem_doomed_iff ..).mp listed
      refine (mem_doomed_iff ..).mpr ⟨?_, isDoomed⟩
      rw [List.mem_singleton.mp member]
      exact List.mem_cons_self
    · refine falls.imp first.consistent ?_ ?_
      · intro root listed
        obtain ⟨later, entry, found, isDoomed⟩ := (mem_doomed_iff ..).mp listed
        exact (mem_doomed_iff ..).mpr ⟨List.mem_cons_of_mem _ later, entry,
          first.entry?_before (notFirst later) found, isDoomed⟩
      · intro known entry found
        obtain ⟨-, old, oldFound, sameOwner, -⟩ := first.exists_before found
        exact ⟨old, oldFound, sameOwner⟩

theorem cons
    {between : Registry}
    {id : EntryId}
    {rest : List EntryId}
    (consistent : before.Consistent)
    (first : Reread now [id] before between)
    (second : Reread now rest between after)
    (new : id ∉ rest) :
    Reread now (id :: rest) before after := by
  have fallsIff := falls_cons_iff consistent first new
  refine ⟨second.consistent, second.nextId.trans first.nextId, ?_, ?_⟩
  · intro other falls
    by_cases goesLater : between.Falls (between.doomed now rest) other
    · exact second.gone other goesLater
    · rw [second.left other goesLater,
        first.gone other (((fallsIff other).mp falls).resolve_right goesLater)]
      rfl
  · intro other stays
    rw [fallsIff, not_or] at stays
    rw [second.left other stays.2, first.left other stays.1, Option.map_map]
    congr 1
    funext entry
    simp only [Function.comp_apply]
    by_cases isFirst : other = id
    · simp [isFirst, new]
    · simp [isFirst]

end Reread

/-- Reading the entries of a list. -/
theorem Consistent.reread_readAll
    {registry : Registry}
    (consistent : registry.Consistent)
    (now : Time)
    (query : Query)
    (ids : List EntryId)
    (nodup : ids.Nodup) :
    Reread now ids registry (registry.readAll now query ids).2 := by
  induction ids generalizing registry with
  | nil => exact consistent.reread_self now [] (by simp)
  | cons id rest inductionHypothesis =>
      obtain ⟨new, nodupRest⟩ := List.nodup_cons.mp nodup
      have first := consistent.reread_get now id
      rw [readAll_cons_registry]
      exact Reread.cons consistent first (inductionHypothesis first.consistent nodupRest) new

/-- What is answered: the element that reading the first entry gives, if it is
selected, and then what is answered from there. -/
theorem Consistent.readAll_cons_fst
    {registry : Registry}
    (consistent : registry.Consistent)
    (now : Time)
    (query : Query)
    (id : EntryId)
    (rest : List EntryId) :
    (registry.readAll now query (id :: rest)).1 =
      ((registry.get now id).2.selected? query id).toList ++
        ((registry.get now id).2.readAll now query rest).1 := by
  have element := consistent.get_fst now id
  rw [readAll, selected?, ← element]
  rcases registry.get now id with ⟨read, between⟩
  cases read with
  | none => rfl
  | some element =>
      by_cases selected : query.selects element = true
      · simp [selected]
      · simp [selected]

/-- What is read and still there at the end is answered as it is there. -/
theorem Consistent.mem_readAll
    {registry : Registry}
    (consistent : registry.Consistent)
    (now : Time)
    (query : Query)
    (ids : List EntryId)
    (nodup : ids.Nodup)
    {id : EntryId}
    {answer : EntryId × Descriptor}
    (listed : id ∈ ids)
    (selected : (registry.readAll now query ids).2.selected? query id = some answer) :
    answer ∈ (registry.readAll now query ids).1 := by
  induction ids generalizing registry with
  | nil => cases listed
  | cons first rest inductionHypothesis =>
      obtain ⟨new, nodupRest⟩ := List.nodup_cons.mp nodup
      have consistentRead := (consistent.evolves_get now first).consistent
      rw [consistent.readAll_cons_fst, List.mem_append]
      rw [readAll_cons_registry] at selected
      rcases List.mem_cons.mp listed with rfl | later
      · left
        -- It is not read again, so what is there at the end is what was read.
        have read := consistentRead.reread_readAll now query rest nodupRest
        obtain ⟨element, elementEq, -⟩ := Option.bind_eq_some_iff.mp selected
        obtain ⟨entry, found, -⟩ := Option.map_eq_some_iff.mp elementEq
        rw [selected?, found, ← read.entry?_before new found] at selected
        rw [Option.mem_toList]
        exact selected
      · exact Or.inr (inductionHypothesis consistentRead nodupRest later selected)

end Registry
end JspCompletion
