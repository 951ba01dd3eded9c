import JspCompletion.Builtin
import JspCompletion.Proofs.Registry.Answer
import JspCompletion.Proofs.Registry.Arrangement
import JspCompletion.Proofs.Variables.Alignment

/-!
# A scanner among built-in variables

Where the built-in variables were registered before the scanner came, and all
else that is there never is a variable, the scanner has the registry to itself:
whatever comes into it is the scanner's, and the names that the scanner leaves
alone are those of the built-in variables.

Both sweeps and queries leave it so.  Other entries may change or go when a
query reads them, but none of them takes a variable along, since variables
belong to nothing.
-/

namespace JspCompletion

open Registry Markup VariableScanner

namespace Entry

/-- The entry is a built-in variable, which lives until it is removed and belongs
to nothing. -/
structure IsImplicitObject (entry : Entry) : Prop where
  isVariable : ∃ var, entry.element = .var var ∧ var.name.text ∈ Builtin.implicitObjectNames
  static : entry.lifetime = none
  unowned : entry.owner = none

/-- The entry is no variable, and no decision about it makes it one. -/
structure NeverVariable (entry : Entry) : Prop where
  now : entry.element.kind ≠ .var
  later : ∀ lifetime, entry.lifetime = some lifetime →
    ∀ element, Refresh.replace element ∈ lifetime.plan → element.kind ≠ .var

theorem NeverVariable.reread
    {entry : Entry}
    (never : entry.NeverVariable)
    (time : Time) :
    (entry.reread time).NeverVariable := by
  have laterNext : ∀ lifetime, entry.lifetime.map Lifetime.next = some lifetime →
      ∀ element, Refresh.replace element ∈ lifetime.plan → element.kind ≠ .var := by
    intro lifetime life element planned
    obtain ⟨old, oldLife, rfl⟩ := Option.map_eq_some_iff.mp life
    exact never.later old oldLife element (List.mem_of_mem_tail planned)
  unfold Entry.reread Entry.asked
  split
  · split
    · rename_i element decided
      refine ⟨?_, laterNext⟩
      obtain ⟨lifetime, life⟩ : ∃ lifetime, entry.lifetime = some lifetime := by
        cases life : entry.lifetime with
        | none => simp [Entry.decision, life] at decided
        | some lifetime => exact ⟨lifetime, rfl⟩
      refine never.later lifetime life element ?_
      have head : lifetime.plan.head?.getD .keep = .replace element := by
        simpa [Entry.decision, life, Lifetime.decision] using decided
      cases plan : lifetime.plan with
      | nil => simp [plan] at head
      | cons first rest =>
          rw [plan] at head
          rw [← (show first = .replace element from head)]
          exact List.mem_cons_self
    · exact ⟨never.now, laterNext⟩
  · exact never

end Entry

namespace Registry

/-! ## Owners -/

/-- Only entries below a limit belong to something, and that lies below it
too. -/
def OwnedBelow (limit : Nat) (registry : Registry) : Prop :=
  ∀ item ∈ registry.entries, ∀ owner, item.2.owner = some owner →
    owner.value < limit ∧ item.1.value < limit

section OwnedBelow

variable {limit : Nat} {registry : Registry}

theorem OwnedBelow.reread
    {now : Time}
    {ids : List EntryId}
    {after : Registry}
    (ownedBelow : registry.OwnedBelow limit)
    (read : Reread now ids registry after) :
    after.OwnedBelow limit := by
  intro item member owner belongs
  have found := (read.consistent.entry?_eq_some_iff item.1 item.2).mpr member
  obtain ⟨-, old, oldFound, sameOwner, -⟩ := read.exists_before found
  exact ownedBelow (item.1, old) (mem_of_entry?_eq_some oldFound) owner (sameOwner.trans belongs)

theorem OwnedBelow.removeAll
    (ownedBelow : registry.OwnedBelow limit)
    (consistent : registry.Consistent)
    (roots : List EntryId) :
    (registry.removeAll roots).OwnedBelow limit := by
  obtain ⟨all, equal, -⟩ := consistent.removeAll_eq_without roots
  rw [equal]
  intro item member
  exact ownedBelow item (List.mem_of_mem_filter member)

/-- Variables are registered under no owner. -/
theorem OwnedBelow.addVariable
    {state : VariableScanner × Registry}
    (ownedBelow : state.2.OwnedBelow limit)
    (now : Time)
    (span : Nat)
    (reserved : List String)
    (wanted : String × Option String) :
    (VariableScanner.addVariable now span reserved state wanted).2.OwnedBelow limit := by
  rcases addVariable_cases now span reserved state wanted with same | ⟨var, registered⟩
  · rw [same]
    exact ownedBelow
  · rw [registered]
    intro item member owner belongs
    rcases List.mem_append.mp member with old | new
    · exact ownedBelow item old owner belongs
    · rw [List.mem_singleton.mp new] at belongs
      cases belongs

theorem OwnedBelow.sweep
    (ownedBelow : registry.OwnedBelow limit)
    (consistent : registry.Consistent)
    (scanner : VariableScanner)
    (now : Time)
    (text : List Char)
    (span : Nat) :
    (scanner.sweep now text span registry).2.OwnedBelow limit := by
  have read := consistent.reread_query now { kind := some .var }
  have filled (state : VariableScanner × Registry) (reserved : List String)
      (wanted : List (String × Option String)) (below : state.2.OwnedBelow limit) :
      (wanted.foldl (VariableScanner.addVariable now span reserved) state).2.OwnedBelow limit := by
    induction wanted generalizing state with
    | nil => exact below
    | cons first rest inductionHypothesis =>
        exact inductionHypothesis _ (below.addVariable now span reserved first)
  apply filled
  exact (ownedBelow.reread read).removeAll read.consistent _

end OwnedBelow

/-- What belongs to nothing and has no decision left stays when others are
read. -/
theorem Reread.entry?_timeless
    {now : Time}
    {ids : List EntryId}
    {before after : Registry}
    (read : Reread now ids before after)
    (consistent : before.Consistent)
    {id : EntryId}
    {entry : Entry}
    (found : before.entry? id = some entry)
    (unowned : entry.owner = none)
    (steady : entry.IsSteady) :
    ∃ other, after.entry? id = some other ∧ other.timeless = entry.timeless := by
  have decision : entry.decision = .keep := steady.decision
  have stays : ¬before.Falls (before.doomed now ids) id := by
    intro falls
    cases falls with
    | root listed _ =>
        obtain ⟨-, other, otherFound, isDoomed⟩ := (mem_doomed_iff ..).mp listed
        rw [found, Option.some.injEq] at otherFound
        simp [← otherFound, Entry.isDoomed, decision] at isDoomed
    | @owned item owner member belongs _ =>
        rw [(consistent.entry?_eq_some_iff item.1 item.2).mpr member, Option.some.injEq] at found
        rw [found, unowned] at belongs
        cases belongs
  refine ⟨_, by rw [read.left id stays, found, Option.map_some], ?_⟩
  split
  · unfold Entry.reread Entry.asked
    split
    · simp [decision, Entry.timeless, steady.next]
    · rfl
  · rfl

/-! ## Prepared registries -/

/-- Below a limit there are the built-in variables and entries that never are
variables, and nothing belongs to what lies above. -/
structure Prepared (limit : Nat) (registry : Registry) : Prop where
  ownedBelow : registry.OwnedBelow limit
  old : ∀ id entry, id.value < limit → registry.entry? id = some entry →
    entry.IsImplicitObject ∨ entry.NeverVariable
  builtins : ∀ name ∈ Builtin.implicitObjectNames,
    ∃ id, id.value < limit ∧ registry.HasVariable id name

theorem Prepared.isImplicitObject
    {limit : Nat}
    {registry : Registry}
    (prepared : registry.Prepared limit)
    {id : EntryId}
    {entry : Entry}
    (below : id.value < limit)
    (found : registry.entry? id = some entry)
    (ofKind : entry.element.kind = .var) :
    entry.IsImplicitObject :=
  (prepared.old id entry below found).resolve_right fun never => never.now ofKind

theorem Prepared.reread
    {limit : Nat}
    {now : Time}
    {ids : List EntryId}
    {before after : Registry}
    (prepared : before.Prepared limit)
    (consistent : before.Consistent)
    (read : Reread now ids before after) :
    after.Prepared limit := by
  refine ⟨prepared.ownedBelow.reread read, ?_, ?_⟩
  · intro id entry below found
    obtain ⟨-, old, oldFound, rereadOrNot⟩ := read.exists_reread found
    rcases prepared.old id old below oldFound with isImplicit | never
    · have same : entry = old := by
        rw [rereadOrNot]
        simp [Entry.reread, isExpired, isImplicit.static]
      rw [same]
      exact Or.inl isImplicit
    · rw [rereadOrNot]
      split
      · exact Or.inr (never.reread now)
      · exact Or.inr never
  · intro name isBuiltin
    obtain ⟨id, below, var, elementEq, named⟩ := prepared.builtins name isBuiltin
    obtain ⟨entry, found, element⟩ := Option.map_eq_some_iff.mp elementEq
    have isImplicit := prepared.isImplicitObject below found (by rw [element]; rfl)
    obtain ⟨other, otherFound, same⟩ := read.entry?_timeless consistent found
      isImplicit.unowned (Entry.isSteady_of_static isImplicit.static)
    refine ⟨id, below, var, ?_, named⟩
    have sameElement : other.element = entry.element :=
      (congrArg Entry.element same :)
    rw [otherFound, Option.map_some, sameElement, element]

/-! ## Built-in variables -/

theorem Consistent.evolves_addUnowned
    {registry : Registry}
    (consistent : registry.Consistent)
    (now : Time)
    (elements : List Descriptor) :
    Evolves True registry (registry.addAll now none elements) := by
  induction elements generalizing registry with
  | nil => exact Evolves.refl consistent
  | cons element rest inductionHypothesis =>
      have added : Evolves True registry (registry.add now element none).2 :=
        (consistent.evolves_add now element none none).imp (by simp)
      exact added.andThen (inductionHypothesis added.consistent)

@[simp] theorem nextId_addAll
    (registry : Registry)
    (now : Time)
    (owner : Option EntryId)
    (elements : List Descriptor) :
    (registry.addAll now owner elements).nextId = registry.nextId + elements.length := by
  induction elements generalizing registry with
  | nil => rfl
  | cons element rest inductionHypothesis =>
      change ((registry.add now element owner).2.addAll now owner rest).nextId = _
      rw [inductionHypothesis, List.length_cons]
      change registry.nextId + 1 + rest.length = _
      omega

/-- What is added is found under the numbers that follow, in order. -/
theorem Consistent.entry?_addUnowned
    {registry : Registry}
    (consistent : registry.Consistent)
    (now : Time)
    (elements : List Descriptor)
    (id : EntryId) :
    entry? (registry.addAll now none elements) id =
      if id.value < registry.nextId then registry.entry? id
      else elements[id.value - registry.nextId]?.map fun element =>
        { element, lifetime := none, lastChanged := now, owner := none } := by
  induction elements generalizing registry with
  | nil =>
      split
      · rfl
      · rename_i unused
        rw [List.getElem?_nil, Option.map_none, Registry.entry?_eq_none_iff]
        intro member
        exact unused (consistent.value_lt_nextId member)
  | cons element rest inductionHypothesis =>
      have added := (consistent.evolves_add now element none none).consistent
      refine (inductionHypothesis added).trans ?_
      rw [consistent.entry?_add]
      change (if id.value < registry.nextId + 1 then _
        else rest[id.value - (registry.nextId + 1)]?.map _) = _
      rcases Nat.lt_trichotomy id.value registry.nextId with old | first | later
      · have differs : id ≠ ⟨registry.nextId⟩ := by
          rintro rfl
          exact Nat.lt_irrefl _ old
        rw [if_pos (by omega), if_neg differs, if_pos old]
      · obtain rfl : id = ⟨registry.nextId⟩ := congrArg EntryId.mk first
        simp
      · have place : id.value - registry.nextId = id.value - (registry.nextId + 1) + 1 := by
          omega
        rw [if_neg (by omega), if_neg (by omega), place, List.getElem?_cons_succ]

end Registry

/-- The name of a variable. -/
def Descriptor.variableName? : Descriptor → Option String
  | var item => some item.name.text
  | _ => none

/-- All built-in descriptors can be made, and the variables among them are the
implicit objects. -/
theorem Builtin.exists_descriptors :
    ∃ all, descriptors = .ok all ∧
      all.filterMap Descriptor.variableName? = implicitObjectNames := by
  have names : descriptors.toOption.map (·.filterMap Descriptor.variableName?) =
      some implicitObjectNames := by
    decide +kernel
  cases made : descriptors with
  | error failure =>
      rw [made] at names
      cases names
  | ok all =>
      rw [made] at names
      exact ⟨all, rfl, Option.some.inj names⟩

theorem Builtin.exists_of_register
    {registry after : Registry}
    {now : Time}
    {count : Nat}
    (registered : register registry now = .ok (count, after)) :
    ∃ all, after = registry.addAll now none all ∧
      all.filterMap Descriptor.variableName? = implicitObjectNames := by
  obtain ⟨all, made, names⟩ := exists_descriptors
  unfold register at registered
  rw [made] at registered
  cases registered
  exact ⟨all, rfl, names⟩

/-- A registry in which nothing ever is a variable is prepared once the built-in
descriptors are registered. -/
theorem Registry.prepared_register
    {registry after : Registry}
    (consistent : registry.Consistent)
    (older : registry.OwnersOlder)
    (noVariables : ∀ item ∈ registry.entries, item.2.NeverVariable)
    {now : Time}
    {count : Nat}
    (registered : Builtin.register registry now = .ok (count, after)) :
    after.Consistent ∧ after.Prepared after.nextId := by
  obtain ⟨all, rfl, names⟩ := Builtin.exists_of_register registered
  obtain ⟨members, entriesEq, elements, unowned⟩ := exists_entries_addAll registry now none all
  have evolves := consistent.evolves_addUnowned now all
  refine ⟨evolves.consistent, ?_, ?_, ?_⟩
  · intro item member owner belongs
    rw [entriesEq] at member
    rcases List.mem_append.mp member with old | new
    · have ownerOlder := older item old owner belongs
      have below := Nat.lt_of_lt_of_le (consistent.below item old) evolves.nextId_le
      exact ⟨Nat.lt_trans ownerOlder below, below⟩
    · rw [(unowned item new).1] at belongs
      cases belongs
  · intro id entry _ found
    have member := mem_of_entry?_eq_some found
    rw [entriesEq] at member
    rcases List.mem_append.mp member with old | new
    · exact Or.inr (noVariables _ old)
    · obtain ⟨noOwner, static⟩ := unowned _ new
      by_cases ofKind : entry.element.kind = .var
      · left
        have listed := List.mem_map_of_mem (f := (·.2.element)) new
        rw [elements] at listed
        cases element : entry.element with
        | var var =>
            refine ⟨⟨var, element, ?_⟩, static, noOwner⟩
            rw [← names, List.mem_filterMap]
            exact ⟨entry.element, listed, by rw [element]; rfl⟩
        | _ =>
            rw [element] at ofKind
            cases ofKind
      · right
        refine ⟨ofKind, ?_⟩
        intro lifetime life
        rw [static] at life
        cases life
  · intro name isBuiltin
    rw [← names] at isBuiltin
    obtain ⟨element, listed, named⟩ := List.mem_filterMap.mp isBuiltin
    rw [← elements] at listed
    obtain ⟨member, inGroup, rfl⟩ := List.mem_map.mp listed
    have stored : member ∈ (registry.addAll now none all).entries := by
      rw [entriesEq]
      exact List.mem_append_right _ inGroup
    have found := (evolves.consistent.entry?_eq_some_iff member.1 member.2).mpr stored
    refine ⟨member.1, evolves.consistent.below member stored, ?_⟩
    cases element : member.2.element with
    | var var =>
        rw [element] at named
        refine ⟨var, ?_, Option.some.inj named⟩
        rw [found, Option.map_some, element]
    | _ =>
        rw [element] at named
        cases named

namespace Work

/-! ## A scanner that has the registry to itself -/

/-- The scanner has noted what it registered, and whatever came into the registry
from the start on is its work. -/
structure Tended (start : Nat) (work : Work) : Prop where
  faithful : work.Faithful start
  prepared : work.registry.Prepared start
  made_ge : ∀ id ∈ work.made, start ≤ id.value
  made_all : ∀ id ∈ work.registry.ids, start ≤ id.value → id ∈ work.made

/-- Where the registry is prepared and the scanner has made all the rest, the
scanner and the others keep apart. -/
theorem apart_of_prepared
    {start : Nat}
    {work : Work}
    (consistent : work.registry.Consistent)
    (prepared : work.registry.Prepared start)
    (made_ge : ∀ id ∈ work.made, start ≤ id.value)
    (made_all : ∀ id ∈ work.registry.ids, start ≤ id.value → id ∈ work.made) :
    work.Apart start := by
  have below {item : EntryId × Entry} (member : item ∈ work.registry.entries)
      (notMade : item.1 ∉ work.made) : item.1.value < start := by
    by_contra above
    exact notMade (made_all item.1 (List.mem_map_of_mem member) (Nat.le_of_not_lt above))
  refine ⟨?_, fun item member notMade _ => below member notMade, ?_⟩
  · intro item member notMade ofKind
    have found := (consistent.entry?_eq_some_iff item.1 item.2).mpr member
    exact (prepared.isImplicitObject (below member notMade) found ofKind).static
  · intro item member owner made _ belongs
    have ownerBelow := (prepared.ownedBelow item member owner belongs).1
    exact absurd (made_ge owner made) (Nat.not_le_of_lt ownerBelow)

namespace Tended

variable {start : Nat} {work : Work}

theorem apart
    (tended : work.Tended start) :
    work.Apart start :=
  apart_of_prepared tended.faithful.consistent tended.prepared tended.made_ge tended.made_all

/-- The names that others hold are those of the built-in variables. -/
theorem taken_iff
    (tended : work.Tended start)
    (name : String) :
    work.Taken name ↔ name ∈ Builtin.implicitObjectNames := by
  constructor
  · rintro ⟨id, notMade, var, elementEq, rfl⟩
    obtain ⟨entry, found, element⟩ := Option.map_eq_some_iff.mp elementEq
    have ofKind : entry.element.kind = .var := by
      rw [element]
      rfl
    have below := tended.apart.early (id, entry) (mem_of_entry?_eq_some found) notMade ofKind
    have isImplicit := tended.prepared.isImplicitObject below found ofKind
    obtain ⟨other, otherElement, isBuiltin⟩ := isImplicit.isVariable
    cases element.symm.trans otherElement
    exact isBuiltin
  · intro isBuiltin
    obtain ⟨id, below, has⟩ := tended.prepared.builtins name isBuiltin
    exact ⟨id, fun made => absurd (tended.made_ge id made) (Nat.not_le_of_lt below), has⟩

/-- When it last scanned makes no difference. -/
theorem withLastScan
    (tended : work.Tended start)
    (time : Time) :
    Tended start { work with scanner := { work.scanner with lastScan := some time } } :=
  { faithful := tended.faithful.withLastScan time
    prepared := tended.prepared
    made_ge := tended.made_ge
    made_all := tended.made_all }

theorem sweep
    (tended : work.Tended start)
    (now : Time)
    (text : List Char)
    (span : Nat) :
    (work.sweep now text span).Tended start := by
  have apart := tended.apart
  have made_ge : ∀ id ∈ (work.sweep now text span).made, start ≤ id.value := by
    intro id made
    rcases (mem_made_sweep ..).mp made with old | new
    · exact tended.made_ge id old
    · exact tended.faithful.start_le.trans new.2
  have same {id : EntryId} (below : id.value < start) :
      Registry.entry? (work.sweep now text span).registry id = work.registry.entry? id :=
    tended.faithful.entry?_sweep_of_not_made apart now text span fun made =>
      absurd (made_ge id made) (Nat.not_le_of_lt below)
  refine ⟨tended.faithful.sweep apart now text span, ⟨?_, ?_, ?_⟩, made_ge, ?_⟩
  · exact tended.prepared.ownedBelow.sweep tended.faithful.consistent work.scanner now text span
  · intro id entry below found
    rw [same below] at found
    exact tended.prepared.old id entry below found
  · intro name isBuiltin
    obtain ⟨id, below, has⟩ := tended.prepared.builtins name isBuiltin
    exact ⟨id, below, has.congr (by rw [same below])⟩
  · intro id live above
    by_contra notMade
    -- What the sweep did not make was there before, and so was the scanner's.
    have unchanged := tended.faithful.entry?_sweep_of_not_made apart now text span notMade
    obtain ⟨entry, found⟩ := (mem_ids_iff_exists _ id).mp live
    rw [unchanged] at found
    have wasLive := (mem_ids_iff_exists work.registry id).mpr ⟨entry, found⟩
    exact notMade ((mem_made_sweep ..).mpr (Or.inl (tended.made_all id wasLive above)))

/-- A query leaves the scanner's work as it is. -/
theorem query
    (tended : work.Tended start)
    (now : Time)
    (query : Query) :
    Tended start { work with registry := (work.registry.query now query).2 } := by
  have read := tended.faithful.consistent.reread_query now query
  have prepared := tended.prepared.reread tended.faithful.consistent read
  have made_all : ∀ id ∈ (work.registry.query now query).2.ids, start ≤ id.value →
      id ∈ work.made := by
    intro id live
    obtain ⟨entry, found⟩ := (mem_ids_iff_exists _ id).mp live
    obtain ⟨-, old, oldFound, -⟩ := read.exists_before found
    exact tended.made_all id ((mem_ids_iff_exists work.registry id).mpr ⟨old, oldFound⟩)
  have apart : Apart start { work with registry := (work.registry.query now query).2 } :=
    apart_of_prepared read.consistent prepared tended.made_ge made_all
  exact ⟨tended.faithful.other ⟨now, .query query⟩ apart, prepared, tended.made_ge, made_all⟩

/-- A query leaves a scanner's work done. -/
theorem complete_query
    (tended : work.Tended start)
    {text : List Char}
    (complete : work.Complete text)
    (now : Time)
    (query : Query) :
    Complete text { work with registry := (work.registry.query now query).2 } := by
  have read := tended.faithful.consistent.reread_query now query
  refine ⟨?_, complete.wanted, ?_⟩
  · intro item owned
    obtain ⟨entry, found⟩ := (mem_ids_iff_exists _ item.id).mp (complete.live item owned)
    have above := tended.made_ge _ (tended.faithful.owned_made item owned)
    have unowned : entry.owner = none := by
      cases belongs : entry.owner with
      | none => rfl
      | some owner =>
          have below := (tended.prepared.ownedBelow _ (mem_of_entry?_eq_some found) owner
            belongs).2
          exact absurd above (Nat.not_le_of_lt below)
    obtain ⟨other, otherFound, -⟩ := read.entry?_timeless tended.faithful.consistent found unowned
      (tended.faithful.shown item owned entry found).steady
    exact (mem_ids_iff_exists _ item.id).mpr ⟨other, otherFound⟩
  · intro wanted listed
    rw [(tended.query now query).taken_iff, ← tended.taken_iff]
    exact complete.covered wanted listed

end Tended
end Work
end JspCompletion
