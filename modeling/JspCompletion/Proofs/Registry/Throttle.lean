import JspCompletion.Proofs.Registry.Imported

/-!
# How often plans are asked

The plan of an entry is asked when the entry is read and its life has passed, and
asking starts its life again.  So along a clock that never goes back the plan is
asked no sooner than one span after the insertion and one span after the last
time, and whoever reads the entry then does ask it.

A step reads the entry that it gets or the candidates of its query, one after the
other.  Candidates may go before their turn, with an entry that removes itself;
those are passed over.  What a step does besides reading asks no plan.  Reading a
list is a run of its own, so a query during which the clock moves on is no more
than several steps.
-/

namespace JspCompletion

namespace Entry

/-- How long the element of the entry lives, if it has a life. -/
def span? (entry : Entry) : Option Nat :=
  entry.lifetime.map (·.span)

theorem span?_reread (entry : Entry) (now : Time) :
    (entry.reread now).span? = entry.span? := by
  have next : (entry.lifetime.map Lifetime.next).map (·.span) = entry.lifetime.map (·.span) := by
    cases entry.lifetime <;> rfl
  unfold reread asked
  split
  · split <;> exact next
  · rfl

theorem lastChanged_reread (entry : Entry) (now : Time) :
    (entry.reread now).lastChanged =
      if Registry.isExpired entry now then now else entry.lastChanged := by
  unfold reread asked
  split
  · split <;> rfl
  · rfl

end Entry

namespace Registry

/-! ## Calls -/

/-- When the plan of an entry was asked, the latest time first. -/
def callTimes (registry : Registry) (id : EntryId) : List Time :=
  (registry.calls.filter (·.entry == id)).map (·.time)

/-- The life of the entry with an identity has passed. -/
def IsDue (registry : Registry) (id : EntryId) (now : Time) : Prop :=
  ∃ entry, registry.entry? id = some entry ∧ isExpired entry now = true

theorem callTimes_congr
    {before after : Registry}
    (calls : after.calls = before.calls)
    (id : EntryId) :
    after.callTimes id = before.callTimes id := by
  rw [callTimes, callTimes, calls]

theorem Consistent.calls_removeAll
    {registry : Registry}
    (consistent : registry.Consistent)
    (roots : List EntryId) :
    (registry.removeAll roots).calls = registry.calls := by
  obtain ⟨all, equal, -⟩ := consistent.removeAll_eq_without roots
  rw [equal]
  rfl

theorem calls_addAll
    (registry : Registry)
    (now : Time)
    (owner : Option EntryId)
    (elements : List Descriptor) :
    (registry.addAll now owner elements).calls = registry.calls := by
  induction elements generalizing registry with
  | nil => rfl
  | cons element rest inductionHypothesis =>
      exact inductionHypothesis (registry.add now element owner).2

/-- Reading an entry asks its plan if it is due. -/
theorem Consistent.calls_get_of_due
    {registry : Registry}
    (consistent : registry.Consistent)
    {now : Time}
    {id : EntryId}
    (due : registry.IsDue id now) :
    (registry.get now id).2.calls = ⟨id, now⟩ :: registry.calls := by
  obtain ⟨entry, found, expired⟩ := due
  rw [get, found]
  simp only [expired, if_true]
  cases (entry.lifetime.map Lifetime.decision).getD .keep with
  | keep => rfl
  | replace element => rfl
  | remove => exact (consistent.evolves_ask now id).consistent.calls_removeAll [id]

theorem get_snd_of_not_due
    {registry : Registry}
    {now : Time}
    {id : EntryId}
    (notDue : ¬registry.IsDue id now) :
    (registry.get now id).2 = registry := by
  refine registry.get_snd_of_fresh now id ?_
  intro entry found
  rw [Bool.eq_false_iff]
  exact fun expired => notDue ⟨entry, found, expired⟩

/-- Reading another entry asks another plan, if any. -/
theorem Consistent.callTimes_get_of_ne
    {registry : Registry}
    (consistent : registry.Consistent)
    (now : Time)
    {id other : EntryId}
    (different : other ≠ id) :
    (registry.get now other).2.callTimes id = registry.callTimes id := by
  by_cases due : registry.IsDue other now
  · rw [callTimes, consistent.calls_get_of_due due,
      List.filter_cons_of_neg (by simpa using different), callTimes]
  · rw [get_snd_of_not_due due]

theorem Consistent.callTimes_get_of_due
    {registry : Registry}
    (consistent : registry.Consistent)
    {now : Time}
    {id : EntryId}
    (due : registry.IsDue id now) :
    (registry.get now id).2.callTimes id = now :: registry.callTimes id := by
  rw [callTimes, consistent.calls_get_of_due due, List.filter_cons_of_pos (by simp)]
  rfl

/-! ## Reading one after the other -/

/-- Reading the entries of a list one after the other, one comes to an entry while
it is there. -/
inductive Reaches (now : Time) (id : EntryId) : Registry → List EntryId → Prop
  | here
      {registry : Registry}
      {rest : List EntryId}
      (live : registry.contains id = true) :
      Reaches now id registry (id :: rest)
  | later
      {registry : Registry}
      {first : EntryId}
      {rest : List EntryId}
      (reaches : Reaches now id (registry.get now first).2 rest) :
      Reaches now id registry (first :: rest)

theorem Reaches.mem
    {now : Time}
    {id : EntryId}
    {registry : Registry}
    {ids : List EntryId}
    (reaches : Reaches now id registry ids) :
    id ∈ ids := by
  induction reaches with
  | here => exact List.mem_cons_self
  | later _ inductionHypothesis => exact List.mem_cons_of_mem _ inductionHypothesis

/-- An entry that is reached is there from the start. -/
theorem Reaches.contains
    {now : Time}
    {id : EntryId}
    {registry : Registry}
    {ids : List EntryId}
    (reaches : Reaches now id registry ids)
    (consistent : registry.Consistent) :
    registry.contains id = true := by
  induction reaches with
  | here live => exact live
  | @later registry first rest _ inductionHypothesis =>
      have read := consistent.reread_get now first
      exact read.contains_before (inductionHypothesis read.consistent)

/-- An entry of the list that is left in the end was reached. -/
theorem Consistent.reaches_of_left
    {registry : Registry}
    (consistent : registry.Consistent)
    {now : Time}
    {query : Query}
    {ids : List EntryId}
    {id : EntryId}
    (nodup : ids.Nodup)
    (listed : id ∈ ids)
    (left : (registry.readAll now query ids).2.contains id = true) :
    Reaches now id registry ids := by
  induction ids generalizing registry with
  | nil => cases listed
  | cons first rest inductionHypothesis =>
      rcases List.mem_cons.mp listed with rfl | later
      · exact .here ((consistent.reread_readAll now query _ nodup).contains_before left)
      · rw [readAll_cons_registry] at left
        exact Reaches.later (inductionHypothesis (consistent.evolves_get now first).consistent
          (List.nodup_cons.mp nodup).2 later left)

/-- Whether one comes to an entry that is due does not depend on another entry that
is read first, unless the reading takes the entry out. -/
theorem Consistent.reaches_due_cons_iff
    {registry : Registry}
    (consistent : registry.Consistent)
    {now : Time}
    {first id : EntryId}
    (different : first ≠ id)
    (rest : List EntryId) :
    Reaches now id registry (first :: rest) ∧ registry.IsDue id now ↔
      Reaches now id (registry.get now first).2 rest ∧
        (registry.get now first).2.IsDue id now := by
  have read := consistent.reread_get now first
  have notRead : id ∉ [first] := by
    rw [List.mem_singleton]
    exact Ne.symm different
  constructor
  · rintro ⟨reaches, old, oldFound, expired⟩
    cases reaches with
    | here => exact absurd rfl different
    | later reaches =>
        obtain ⟨entry, found⟩ := (contains_iff_exists ..).mp (reaches.contains read.consistent)
        rw [read.entry?_before notRead found, Option.some.injEq] at oldFound
        exact ⟨reaches, entry, found, oldFound ▸ expired⟩
  · rintro ⟨reaches, entry, found, expired⟩
    exact ⟨.later reaches, entry, read.entry?_before notRead found, expired⟩

/-- Reading a list asks the plan of an entry once if it comes to the entry and this
is due, and else not at all. -/
theorem Consistent.callTimes_readAll
    {registry : Registry}
    (consistent : registry.Consistent)
    (now : Time)
    (query : Query)
    (ids : List EntryId)
    (nodup : ids.Nodup)
    (id : EntryId) :
    (Reaches now id registry ids ∧ registry.IsDue id now →
      (registry.readAll now query ids).2.callTimes id = now :: registry.callTimes id) ∧
    (¬(Reaches now id registry ids ∧ registry.IsDue id now) →
      (registry.readAll now query ids).2.callTimes id = registry.callTimes id) := by
  induction ids generalizing registry with
  | nil =>
      refine ⟨?_, fun _ => rfl⟩
      rintro ⟨reaches, -⟩
      cases reaches
  | cons first rest inductionHypothesis =>
      obtain ⟨new, nodupRest⟩ := List.nodup_cons.mp nodup
      obtain ⟨askedLater, notAskedLater⟩ :=
        inductionHypothesis (consistent.evolves_get now first).consistent nodupRest
      rw [readAll_cons_registry]
      by_cases same : first = id
      · subst same
        -- The rest of the list does not come to the entry again.
        rw [notAskedLater fun asked => new asked.1.mem]
        refine ⟨fun asked => consistent.callTimes_get_of_due asked.2, ?_⟩
        intro notAsked
        have notDue : ¬registry.IsDue first now := by
          rintro ⟨entry, found, expired⟩
          exact notAsked
            ⟨.here ((contains_iff_exists ..).mpr ⟨entry, found⟩), entry, found, expired⟩
        rw [get_snd_of_not_due notDue]
      · rw [consistent.reaches_due_cons_iff same, ← consistent.callTimes_get_of_ne now same]
        exact ⟨askedLater, notAskedLater⟩

/-! ## Steps -/

/-- Reading a list is a run in which its entries are got one after the other. -/
theorem readAll_snd_eq_run
    (registry : Registry)
    (now : Time)
    (query : Query)
    (ids : List EntryId) :
    (registry.readAll now query ids).2 = registry.run (ids.map fun id => ⟨now, .get id⟩) := by
  induction ids generalizing registry with
  | nil => rfl
  | cons id rest inductionHypothesis =>
      rw [readAll_cons_registry, inductionHypothesis]
      rfl

/-- The entries that a step sets out to read: the one it asks for, or the candidates
of its query. -/
def toRead (registry : Registry) (step : Step) : List EntryId :=
  match step.operation with
  | .get id => [id]
  | .query query => registry.candidates query
  | .importLibrary library => registry.candidates (byUri library.uri)
  | .add .. => []
  | .remove _ => []

/-- The registry once a step has read what it sets out to read. -/
def afterReading (registry : Registry) (step : Step) : Registry :=
  registry.run ((registry.toRead step).map fun id => ⟨step.now, .get id⟩)

/-- In carrying out a step one comes to an entry while it is there, and reads it. -/
def Reads (registry : Registry) (step : Step) (id : EntryId) : Prop :=
  Reaches step.now id registry (registry.toRead step)

/-- Apart from reading, a step asks no plan and changes no entry that was there: it
takes entries out or puts new ones in. -/
structure Leaves (before after : Registry) : Prop where
  calls : after.calls = before.calls
  nextId_le : before.nextId ≤ after.nextId
  left : ∀ id, id.value < before.nextId → ∀ entry, after.entry? id = some entry →
    before.entry? id = some entry

theorem Leaves.refl (registry : Registry) : Leaves registry registry :=
  { calls := rfl
    nextId_le := Nat.le_refl _
    left := fun _ _ _ found => found }

theorem Leaves.trans
    {before between after : Registry}
    (first : Leaves before between)
    (second : Leaves between after) :
    Leaves before after :=
  { calls := second.calls.trans first.calls
    nextId_le := Nat.le_trans first.nextId_le second.nextId_le
    left := by
      intro id known entry found
      refine first.left id known entry (second.left id ?_ entry found)
      exact Nat.lt_of_lt_of_le known first.nextId_le }

theorem Consistent.leaves_add
    {registry : Registry}
    (consistent : registry.Consistent)
    (now : Time)
    (element : Descriptor)
    (owner : Option EntryId)
    (lifetime : Option Lifetime) :
    Leaves registry (registry.add now element owner lifetime).2 :=
  { calls := rfl
    nextId_le := Nat.le_succ _
    left := by
      intro id known entry found
      rw [consistent.entry?_add, if_neg] at found
      · exact found
      · rintro rfl
        exact Nat.lt_irrefl _ known }

theorem Consistent.leaves_removeAll
    {registry : Registry}
    (consistent : registry.Consistent)
    (roots : List EntryId) :
    Leaves registry (registry.removeAll roots) :=
  { calls := consistent.calls_removeAll roots
    nextId_le := (consistent.evolves_removeAll roots).nextId_le
    left := fun _ _ _ found => consistent.entry?_of_entry?_removeAll found }

theorem Consistent.leaves_addGroup
    {registry : Registry}
    (consistent : registry.Consistent)
    (now : Time)
    (library : TagLibrary) :
    Leaves registry (registry.addGroup now library) :=
  { calls := calls_addAll ..
    nextId_le := (consistent.evolves_addGroup now library).nextId_le
    left := by
      intro id known entry found
      rwa [consistent.entry?_addGroup now library known] at found }

theorem Consistent.nodup_toRead
    {registry : Registry}
    (consistent : registry.Consistent)
    (step : Step) :
    (registry.toRead step).Nodup := by
  unfold toRead
  split
  · exact List.nodup_singleton _
  · exact consistent.candidates_nodup _
  · exact consistent.candidates_nodup _
  · exact List.nodup_nil
  · exact List.nodup_nil

/-- A step reads first, and then takes entries out or puts new ones in. -/
theorem Consistent.leaves_after
    {registry : Registry}
    (consistent : registry.Consistent)
    (step : Step) :
    Leaves (registry.afterReading step) (registry.after step) := by
  obtain ⟨now, operation⟩ := step
  cases operation with
  | add element owner lifetime => exact consistent.leaves_add now element owner lifetime
  | remove id =>
      simp only [after, remove]
      cases registry.entry? id with
      | none => exact Leaves.refl registry
      | some entry => exact consistent.leaves_removeAll [id]
  | get id => exact Leaves.refl _
  | query query =>
      have read : (registry.query now query).2 = registry.afterReading ⟨now, .query query⟩ :=
        readAll_snd_eq_run ..
      rw [← read]
      exact Leaves.refl _
  | importLibrary library =>
      have read : (registry.query now (byUri library.uri)).2 =
          registry.afterReading ⟨now, .importLibrary library⟩ := readAll_snd_eq_run ..
      have queried := consistent.reread_query now (byUri library.uri)
      rw [← read]
      exact (queried.consistent.leaves_removeAll _).trans
        ((consistent.evolves_makeRoom now library.uri).consistent.leaves_addGroup now library)

/-- The plan of an entry is asked once by a step that reads the entry when this is
due, and else not at all. -/
theorem Consistent.callTimes_after
    {registry : Registry}
    (consistent : registry.Consistent)
    (step : Step)
    (id : EntryId) :
    (registry.Reads step id ∧ registry.IsDue id step.now →
      (registry.after step).callTimes id = step.now :: registry.callTimes id) ∧
    (¬(registry.Reads step id ∧ registry.IsDue id step.now) →
      (registry.after step).callTimes id = registry.callTimes id) := by
  have read := consistent.callTimes_readAll step.now {} _ (consistent.nodup_toRead step) id
  rw [readAll_snd_eq_run] at read
  rw [callTimes_congr (consistent.leaves_after step).calls]
  exact read

/-- A plan is not asked any more once its entry is gone. -/
theorem Consistent.callTimes_run_of_gone
    {registry : Registry}
    (consistent : registry.Consistent)
    {id : EntryId}
    (used : id.value < registry.nextId)
    (gone : registry.contains id = false)
    (steps : List Step) :
    (registry.run steps).callTimes id = registry.callTimes id := by
  induction steps generalizing registry with
  | nil => rfl
  | cons step rest inductionHypothesis =>
      have evolves := consistent.evolves_after step
      have notRead : ¬registry.Reads step id := by
        intro reads
        rw [reads.contains consistent] at gone
        cases gone
      have stillGone : (registry.after step).contains id = false := by
        rw [← Bool.not_eq_true, contains_iff_mem_ids] at gone ⊢
        exact evolves.not_mem_ids used gone
      rw [run_cons, inductionHypothesis evolves.consistent
        (Nat.lt_of_lt_of_le used evolves.nextId_le) stillGone]
      exact (consistent.callTimes_after step id).2 fun asked => notRead asked.1

/-! ## The life of an entry -/

/-- When the plan of an entry was last asked, or else when the entry was inserted. -/
def lastAsked (registry : Registry) (id : EntryId) (inserted : Time) : Time :=
  (registry.callTimes id).head?.getD inserted

/-- What holds of an entry with a life, or of its identity when it is gone, up to a
clock reading. -/
structure Throttled
    (registry : Registry)
    (id : EntryId)
    (inserted : Time)
    (span : Nat)
    (clock : Time) : Prop where
  /-- The identity was given out. -/
  used : id.value < registry.nextId
  /-- The current life of the entry began when its plan was last asked. -/
  life : ∀ entry, registry.entry? id = some entry →
    entry.span? = some span ∧ entry.lastChanged = registry.lastAsked id inserted
  /-- Insertion and calls are a span apart. -/
  apart : (registry.callTimes id ++ [inserted]).Pairwise
    fun late early : Time => early + span ≤ late
  /-- The current life did not begin ahead of the clock. -/
  past : registry.lastAsked id inserted ≤ clock

theorem isExpired_iff
    {entry : Entry}
    {span : Nat}
    {now : Time}
    (life : entry.span? = some span)
    (past : entry.lastChanged ≤ now) :
    isExpired entry now = true ↔ entry.lastChanged + span ≤ now := by
  obtain ⟨lifetime, isLife, rfl⟩ := Option.map_eq_some_iff.mp life
  have passed : isExpired entry now = true ↔ lifetime.span ≤ elapsed entry.lastChanged now := by
    simp [isExpired, isLife]
  rw [passed, le_elapsed_iff past]

namespace Throttled

variable {registry : Registry} {id : EntryId} {inserted : Time} {span : Nat} {clock : Time}

/-- The entry is due once a span has passed since its plan was last asked. -/
theorem isDue_iff
    (throttled : registry.Throttled id inserted span clock)
    (live : registry.contains id = true)
    {now : Time}
    (forward : clock ≤ now) :
    registry.IsDue id now ↔ registry.lastAsked id inserted + span ≤ now := by
  obtain ⟨entry, found⟩ := (contains_iff_exists ..).mp live
  obtain ⟨life, began⟩ := throttled.life entry found
  have past : entry.lastChanged ≤ now := began ▸ Int.le_trans throttled.past forward
  rw [← began, ← isExpired_iff life past]
  constructor
  · rintro ⟨other, otherFound, expired⟩
    rw [found, Option.some.injEq] at otherFound
    exact otherFound ▸ expired
  · intro expired
    exact ⟨entry, found, expired⟩

/-- No call, nor the insertion, lies behind the last one. -/
theorem le_lastAsked
    (throttled : registry.Throttled id inserted span clock)
    {time : Time}
    (member : time ∈ registry.callTimes id ++ [inserted]) :
    time ≤ registry.lastAsked id inserted := by
  have apart := throttled.apart
  unfold lastAsked
  cases calls : registry.callTimes id with
  | nil =>
      rw [calls] at member
      exact Int.le_of_eq (List.mem_singleton.mp member)
  | cons last others =>
      rw [calls, List.cons_append] at member apart
      rcases List.mem_cons.mp member with rfl | earlier
      · exact Int.le_refl _
      · have spaced : time + span ≤ last := (List.pairwise_cons.mp apart).1 time earlier
        exact Int.le_trans (Int.le_add_of_nonneg_right (Int.natCast_nonneg span)) spaced

/-- Time may pass. -/
theorem later
    (throttled : registry.Throttled id inserted span clock)
    {now : Time}
    (forward : clock ≤ now) :
    registry.Throttled id inserted span now :=
  { throttled with past := Int.le_trans throttled.past forward }

/-- Changes that do not ask the plan do not matter, as long as they leave the entry
as it was or take it out. -/
theorem congr
    {after : Registry}
    (throttled : registry.Throttled id inserted span clock)
    (calls : after.callTimes id = registry.callTimes id)
    (nextId_le : registry.nextId ≤ after.nextId)
    (left : ∀ entry, after.entry? id = some entry → registry.entry? id = some entry) :
    after.Throttled id inserted span clock := by
  have last : after.lastAsked id inserted = registry.lastAsked id inserted := by
    rw [lastAsked, lastAsked, calls]
  refine ⟨Nat.lt_of_lt_of_le throttled.used nextId_le, ?_, ?_, ?_⟩
  · intro entry found
    rw [last]
    exact throttled.life entry (left entry found)
  · rw [calls]
    exact throttled.apart
  · rw [last]
    exact throttled.past

/-- A call at least a span after the last one begins the life of the entry again. -/
theorem call
    {after : Registry}
    (throttled : registry.Throttled id inserted span clock)
    {now : Time}
    (due : registry.lastAsked id inserted + span ≤ now)
    (calls : after.callTimes id = now :: registry.callTimes id)
    (nextId_le : registry.nextId ≤ after.nextId)
    (began : ∀ entry, after.entry? id = some entry →
      entry.span? = some span ∧ entry.lastChanged = now) :
    after.Throttled id inserted span now := by
  have last : after.lastAsked id inserted = now := by
    rw [lastAsked, calls]
    rfl
  refine ⟨Nat.lt_of_lt_of_le throttled.used nextId_le, ?_, ?_, Int.le_of_eq last⟩
  · rw [last]
    exact began
  · rw [calls, List.cons_append, List.pairwise_cons]
    refine ⟨?_, throttled.apart⟩
    intro time member
    exact Int.le_trans (Int.add_le_add_right (throttled.le_lastAsked member) span) due

/-- Reading begins the life of an entry again where it asks its plan. -/
theorem readAll
    (throttled : registry.Throttled id inserted span clock)
    (consistent : registry.Consistent)
    (now : Time)
    (query : Query)
    (ids : List EntryId)
    (nodup : ids.Nodup)
    (forward : clock ≤ now) :
    (registry.readAll now query ids).2.Throttled id inserted span now := by
  have read := consistent.reread_readAll now query ids nodup
  have sameNext := Nat.le_of_eq read.nextId.symm
  obtain ⟨asked, notAsked⟩ := consistent.callTimes_readAll now query ids nodup id
  by_cases asks : Reaches now id registry ids ∧ registry.IsDue id now
  · have due := (throttled.isDue_iff (asks.1.contains consistent) forward).mp asks.2
    refine throttled.call due (asked asks) sameNext ?_
    intro entry found
    obtain ⟨-, old, oldFound, rfl⟩ := read.exists_reread found
    obtain ⟨dueEntry, dueFound, expired⟩ := asks.2
    rw [oldFound, Option.some.injEq] at dueFound
    obtain rfl := dueFound
    rw [if_pos asks.1.mem, Entry.span?_reread, Entry.lastChanged_reread, if_pos expired]
    exact ⟨(throttled.life old oldFound).1, rfl⟩
  · refine (throttled.congr (notAsked asks) sameNext ?_).later forward
    intro entry found
    have live := (contains_iff_exists ..).mpr ⟨entry, found⟩
    obtain ⟨-, old, oldFound, rfl⟩ := read.exists_reread found
    rw [oldFound]
    split
    · rename_i listed
      have fresh : isExpired old now = false := by
        rw [Bool.eq_false_iff]
        exact fun expired =>
          asks ⟨consistent.reaches_of_left nodup listed live, old, oldFound, expired⟩
      rw [Entry.reread_of_fresh fresh]
    · rfl

theorem after
    (throttled : registry.Throttled id inserted span clock)
    (consistent : registry.Consistent)
    (step : Step)
    (forward : clock ≤ step.now) :
    (registry.after step).Throttled id inserted span step.now := by
  have read := throttled.readAll consistent step.now {} _ (consistent.nodup_toRead step) forward
  rw [readAll_snd_eq_run] at read
  have leaves := consistent.leaves_after step
  exact read.congr (callTimes_congr leaves.calls id) leaves.nextId_le (leaves.left id read.used)

/-- Along a clock that never goes back, an entry stays throttled. -/
theorem run
    (throttled : registry.Throttled id inserted span clock)
    (consistent : registry.Consistent)
    (steps : List Step)
    (now : Time)
    (forward : (clock :: (steps.map (·.now) ++ [now])).Pairwise (· ≤ ·)) :
    (registry.run steps).Throttled id inserted span now := by
  induction steps generalizing registry clock with
  | nil =>
      exact throttled.later (by simpa using forward)
  | cons step rest inductionHypothesis =>
      obtain ⟨first, forwardRest⟩ := List.pairwise_cons.mp forward
      exact inductionHypothesis
        (throttled.after consistent step (first step.now List.mem_cons_self))
        (consistent.evolves_after step).consistent forwardRest

end Throttled

/-- No plan was asked under an identity that is yet to be given out. -/
def Silent (registry : Registry) : Prop :=
  ∀ id, registry.nextId ≤ id.value → registry.callTimes id = []

theorem Silent.run
    {registry : Registry}
    (silent : registry.Silent)
    (consistent : registry.Consistent)
    (steps : List Step) :
    (registry.run steps).Silent := by
  induction steps generalizing registry with
  | nil => exact silent
  | cons step rest inductionHypothesis =>
      have evolves := consistent.evolves_after step
      refine inductionHypothesis ?_ evolves.consistent
      intro id isNew
      have unused : registry.nextId ≤ id.value := Nat.le_trans evolves.nextId_le isNew
      rw [(consistent.callTimes_after step id).2, silent id unused]
      rintro ⟨reads, -⟩
      have live := (contains_iff_mem_ids ..).mp (reads.contains consistent)
      exact Nat.not_lt_of_le unused (consistent.value_lt_nextId live)

/-- An entry with a life is throttled from its insertion on. -/
theorem Consistent.throttled_add
    {registry : Registry}
    (consistent : registry.Consistent)
    (silent : registry.Silent)
    (now : Time)
    (element : Descriptor)
    (owner : Option EntryId)
    (lifetime : Lifetime) :
    (registry.add now element owner (some lifetime)).2.Throttled ⟨registry.nextId⟩ now
      lifetime.span now := by
  have calls : (registry.add now element owner (some lifetime)).2.callTimes ⟨registry.nextId⟩ =
      [] := silent _ (Nat.le_refl _)
  have last : (registry.add now element owner (some lifetime)).2.lastAsked ⟨registry.nextId⟩ now =
      now := by
    rw [lastAsked, calls]
    rfl
  refine ⟨Nat.lt_succ_self _, ?_, ?_, Int.le_of_eq last⟩
  · intro entry found
    rw [consistent.entry?_add, if_pos rfl, Option.some.injEq] at found
    rw [last, ← found]
    exact ⟨rfl, rfl⟩
  · rw [calls]
    exact List.pairwise_singleton _ _

/-- In every run along a clock that never goes back, for every entry that is
inserted with a life: between its insertion and its first call, and between any two
calls, a whole span passes; one step asks its plan at most once, and only if it
reads the entry; once the entry is gone its plan is not asked any more; and a step
that reads the entry a span or more after the last call, or else after the
insertion, does ask it. -/
theorem calls_are_throttled
    (earlier later : List Step)
    (inserted : Time)
    (element : Descriptor)
    (owner : Option EntryId)
    (lifetime : Lifetime)
    (step : Step)
    (forward : (earlier ++ ⟨inserted, .add element owner (some lifetime)⟩ ::
      (later ++ [step])).Pairwise fun first second => first.now ≤ second.now) :
    let id : EntryId := ⟨(run {} earlier).nextId⟩
    let before := run {} (earlier ++ ⟨inserted, .add element owner (some lifetime)⟩ :: later)
    let after := before.after step
    let last := (before.callTimes id).head?.getD inserted
    (∀ time ∈ before.callTimes id, inserted + lifetime.span ≤ time) ∧
    ((before.callTimes id).Pairwise fun late early : Time => early + lifetime.span ≤ late) ∧
    (after.callTimes id = before.callTimes id ∨
      after.callTimes id = step.now :: before.callTimes id ∧ before.Reads step id) ∧
    (before.contains id = false → ∀ steps, (before.run steps).callTimes id = before.callTimes id) ∧
    (before.Reads step id → last + lifetime.span ≤ step.now →
      after.callTimes id = step.now :: before.callTimes id) := by
  intro id before after last
  have consistent : before.Consistent := consistent_run _
  have throttled : before.Throttled id inserted lifetime.span step.now := by
    have start : Silent {} := fun _ _ => rfl
    have added := (consistent_run earlier).throttled_add
      (start.run consistent_empty earlier) inserted element owner lifetime
    have split : before =
        ((run {} earlier).add inserted element owner (some lifetime)).2.run later :=
      List.foldl_append
    rw [split]
    refine added.run ((consistent_run earlier).evolves_add ..).consistent later step.now ?_
    have readings := List.pairwise_map.mpr (List.pairwise_append.mp forward).2.1
    rwa [List.map_cons, List.map_append] at readings
  obtain ⟨calls, -, fromInsertion⟩ := List.pairwise_append.mp throttled.apart
  obtain ⟨asked, notAsked⟩ := consistent.callTimes_after step id
  have dueIff (reads : before.Reads step id) :=
    throttled.isDue_iff (reads.contains consistent) (Int.le_refl step.now)
  refine ⟨?_, calls, ?_, consistent.callTimes_run_of_gone throttled.used, ?_⟩
  · intro time member
    exact fromInsertion time member inserted List.mem_cons_self
  · by_cases asks : before.Reads step id ∧ before.IsDue id step.now
    · exact Or.inr ⟨asked asks, asks.1⟩
    · exact Or.inl (notAsked asks)
  · intro reads due
    exact asked ⟨reads, (dueIff reads).mpr due⟩

/-- A variable that is kept when its plan is asked first, and removed then; it is read
before it is due, when it is, and before it is due again. -/
def sampleReadings : List Step :=
  [ ⟨9, .get ⟨0⟩⟩, ⟨10, .get ⟨0⟩⟩, ⟨14, .query {}⟩ ]

/-- A query that comes to the variable in time asks its plan for the second time, and
then nobody asks it any more. -/
theorem sampleReadings_are_throttled :
    let element : Descriptor := .var { name := ⟨"x", by decide⟩, typeName := "", description := "" }
    let insertion : Step := ⟨5, .add element none (some { span := 5, plan := [.keep, .remove] })⟩
    let before := run {} (insertion :: sampleReadings)
    let query : Step := ⟨16, .query { kind := some .var }⟩
    let after := before.after query
    before.callTimes ⟨0⟩ = [10] ∧ before.Reads query ⟨0⟩ ∧ after.callTimes ⟨0⟩ = [16, 10] ∧
      after.contains ⟨0⟩ = false ∧ ∀ steps, (after.run steps).callTimes ⟨0⟩ = [16, 10] := by
  intro element insertion before query after
  have first : before.callTimes ⟨0⟩ = [10] := by
    decide +kernel
  have reads : before.Reads query ⟨0⟩ := Reaches.here (by decide +kernel)
  have forward : (insertion :: (sampleReadings ++ [query])).Pairwise
      fun first second => first.now ≤ second.now := by
    decide
  have forwardOn : (insertion :: (sampleReadings ++ [query] ++ [query])).Pairwise
      fun first second => first.now ≤ second.now := by
    decide
  have asks : (before.callTimes ⟨0⟩).head?.getD 5 + (5 : Nat) ≤ query.now →
      after.callTimes ⟨0⟩ = 16 :: before.callTimes ⟨0⟩ :=
    (calls_are_throttled [] sampleReadings 5 element none _ query forward).2.2.2.2 reads
  have silent : after.contains ⟨0⟩ = false →
      ∀ steps, (after.run steps).callTimes ⟨0⟩ = after.callTimes ⟨0⟩ :=
    (calls_are_throttled [] (sampleReadings ++ [query]) 5 element none _ query forwardOn).2.2.2.1
  have gone : after.contains ⟨0⟩ = false := by
    decide +kernel
  rw [first] at asks
  have asked := asks (by decide)
  exact ⟨first, reads, asked, gone, fun steps => (silent gone steps).trans asked⟩

end Registry
end JspCompletion
