import JspCompletion.VariableScanner
import JspCompletion.Proofs.Registry.Reading

/-!
# Removals in any order

An entry may own another one, directly or through others, and the first of two
removals may leave nothing to do for the second.  Still their order makes no
difference: a list of removals takes out what falls with any entry of the list,
and that is a matter of which entries are listed.

A sweep walks the variables that its scanner has noted, and removes the stale
ones one after the other.  Here the walk may take any order.
-/

namespace JspCompletion

/-! ## Removals one after the other -/

namespace Registry

/-- The registry after a removal, whatever its answer. -/
def removing (registry : Registry) (id : EntryId) : Registry :=
  match registry.remove id with
  | .ok (_, left) => left
  | .error _ => registry

section WorkList

variable {registry : Registry} {id : EntryId} {rest : List EntryId}

@[simp] theorem removeAll_nil (registry : Registry) : registry.removeAll [] = registry := by
  rw [removeAll]

theorem removeAll_cons_of_contains
    (live : registry.contains id = true) :
    registry.removeAll (id :: rest) =
      (registry.erase id).removeAll (registry.ownedBy id ++ rest) := by
  rw [removeAll, if_pos live]

theorem removeAll_cons_of_not_contains
    (notLive : ¬registry.contains id = true) :
    registry.removeAll (id :: rest) = registry.removeAll rest := by
  rw [removeAll, if_neg notLive]

/-- The work list of a removal may be cut in two. -/
theorem removeAll_append
    (registry : Registry)
    (front back : List EntryId) :
    registry.removeAll (front ++ back) = (registry.removeAll front).removeAll back := by
  induction registry, front using removeAll.induct with
  | case1 registry => rw [List.nil_append, removeAll_nil]
  | case2 registry id rest live inductionHypothesis =>
      rw [List.cons_append, removeAll_cons_of_contains live, removeAll_cons_of_contains live,
        ← List.append_assoc, inductionHypothesis]
  | case3 registry id rest notLive inductionHypothesis =>
      rw [List.cons_append, removeAll_cons_of_not_contains notLive,
        removeAll_cons_of_not_contains notLive, inductionHypothesis]

end WorkList

theorem removing_eq_removeAll
    (registry : Registry)
    (id : EntryId) :
    registry.removing id = registry.removeAll [id] := by
  rw [removing, remove]
  cases found : registry.entry? id with
  | some entry => rfl
  | none =>
      have absent : ¬registry.contains id = true := by
        rw [contains, found]
        exact Bool.false_ne_true
      rw [removeAll_cons_of_not_contains absent, removeAll_nil]

/-- Removals one after the other have one work list. -/
theorem foldl_removing
    (registry : Registry)
    (ids : List EntryId) :
    ids.foldl removing registry = registry.removeAll ids := by
  induction ids generalizing registry with
  | nil => rw [List.foldl_nil, removeAll_nil]
  | cons id rest inductionHypothesis =>
      rw [List.foldl_cons, inductionHypothesis, removing_eq_removeAll, ← removeAll_append,
        List.singleton_append]

/-- What is taken out depends on which identities are listed only. -/
theorem without_congr
    (registry : Registry)
    {removed others : List EntryId}
    (same : ∀ id, id ∈ removed ↔ id ∈ others) :
    registry.without removed = registry.without others := by
  simp only [without, same]

/-- What is removed depends on which identities are listed only. -/
theorem Consistent.removeAll_congr
    {registry : Registry}
    (consistent : registry.Consistent)
    {roots others : List EntryId}
    (same : ∀ id, id ∈ roots ↔ id ∈ others) :
    registry.removeAll roots = registry.removeAll others := by
  obtain ⟨gone, goneEq, falling⟩ := consistent.removeAll_eq_without_falling roots
  obtain ⟨otherGone, otherEq, otherFalling⟩ := consistent.removeAll_eq_without_falling others
  rw [goneEq, otherEq]
  apply without_congr
  intro id
  rw [falling, otherFalling]
  constructor
  · exact fun falls => falls.of_live_roots fun root listed _ => (same root).mp listed
  · exact fun falls => falls.of_live_roots fun root listed _ => (same root).mpr listed

end Registry

/-! ## Stale variables one after the other -/

namespace VariableScanner

open Registry

/-- Forget a noted variable, and remove its entry if it is still there. -/
def forget (state : VariableScanner × Registry) (name : String) : VariableScanner × Registry :=
  match state.1.owned.find? (·.name == name) with
  | none => state
  | some item =>
      ({ state.1 with owned := state.1.owned.filter (·.name != name) },
        if state.2.contains item.id then state.2.removing item.id else state.2)

/-- A sweep that walks the noted variables in a given order, and forgets the
stale ones one after the other. -/
def sweepAlong
    (scanner : VariableScanner)
    (order : List OwnedVariable)
    (now : Time)
    (text : List Char)
    (span : Nat)
    (registry : Registry) : VariableScanner × Registry :=
  let desired := desired text
  let (registered, registry) := registry.query now { kind := some .var }
  let reserved := scanner.reserved registered
  let stale := (order.filter fun item => !isCurrent registry desired item).map (·.name)
  desired.foldl (addVariable now span reserved) (stale.foldl forget (scanner, registry))

/-- A noted variable is found under its name. -/
theorem forget_name
    {scanner : VariableScanner}
    (names : (scanner.owned.map (·.name)).Nodup)
    (registry : Registry)
    {item : OwnedVariable}
    (owned : item ∈ scanner.owned) :
    forget (scanner, registry) item.name =
      ({ scanner with owned := scanner.owned.filter (·.name != item.name) },
        registry.removeAll [item.id]) := by
  have found : scanner.owned.find? (·.name == item.name) = some item := by
    have isFound : (scanner.owned.find? (·.name == item.name)).isSome = true :=
      List.find?_isSome.mpr ⟨item, owned, beq_self_eq_true _⟩
    obtain ⟨other, otherFound⟩ := Option.isSome_iff_exists.mp isFound
    have sameName : other.name = item.name := by simpa using List.find?_some otherFound
    rw [otherFound,
      List.inj_on_of_nodup_map names (List.mem_of_find?_eq_some otherFound) owned sameName]
  simp only [forget, found]
  split
  · rw [removing_eq_removeAll]
  · next absent => rw [removeAll_cons_of_not_contains absent, removeAll_nil]

/-- Forgetting variables one after the other takes all of them out of the notes,
and removes their entries. -/
theorem foldl_forget
    {scanner : VariableScanner}
    (names : (scanner.owned.map (·.name)).Nodup)
    (registry : Registry)
    {stale : List OwnedVariable}
    (noted : ∀ item ∈ stale, item ∈ scanner.owned)
    (staleNames : (stale.map (·.name)).Nodup) :
    (stale.map (·.name)).foldl forget (scanner, registry) =
      ({ scanner with owned := scanner.owned.filter (·.name ∉ stale.map (·.name)) },
        registry.removeAll (stale.map (·.id))) := by
  induction stale generalizing scanner registry with
  | nil => simp
  | cons item rest inductionHypothesis =>
      obtain ⟨otherNames, restNames⟩ := List.nodup_cons.mp staleNames
      -- The others are still noted, for they have other names.
      have restNoted : ∀ other ∈ rest, other ∈ scanner.owned.filter (·.name != item.name) := by
        intro other listed
        refine List.mem_filter.mpr ⟨noted other (List.mem_cons_of_mem _ listed), ?_⟩
        rw [bne_iff_ne]
        intro sameName
        exact otherNames (List.mem_map.mpr ⟨other, listed, sameName⟩)
      have leftNames : ((scanner.owned.filter (·.name != item.name)).map (·.name)).Nodup :=
        names.sublist (List.filter_sublist.map _)
      have later := @inductionHypothesis
        { scanner with owned := scanner.owned.filter (·.name != item.name) } leftNames
        (registry.removeAll [item.id]) restNoted restNames
      have bothRemoved : registry.removeAll (item.id :: rest.map (·.id)) =
          (registry.removeAll [item.id]).removeAll (rest.map (·.id)) :=
        registry.removeAll_append [item.id] _
      have isNoted := noted item List.mem_cons_self
      rw [List.map_cons, List.foldl_cons, forget_name names registry isNoted, later, List.map_cons,
        bothRemoved, List.filter_filter]
      congr 3
      funext other
      rw [Bool.eq_iff_iff]
      simp [and_comm]

/-- Where names are not used twice, a variable is told by its name. -/
theorem name_mem_map_iff
    {scanner : VariableScanner}
    (names : (scanner.owned.map (·.name)).Nodup)
    {items : List OwnedVariable}
    (noted : ∀ item ∈ items, item ∈ scanner.owned)
    {item : OwnedVariable}
    (owned : item ∈ scanner.owned) :
    item.name ∈ items.map (·.name) ↔ item ∈ items := by
  constructor
  · intro named
    obtain ⟨other, listed, sameName⟩ := List.mem_map.mp named
    rwa [← List.inj_on_of_nodup_map names (noted other listed) owned sameName]
  · exact fun listed => List.mem_map_of_mem listed

/-- Whatever order a sweep takes, it comes to the same. -/
theorem sweepAlong_eq_sweep
    {scanner : VariableScanner}
    (names : (scanner.owned.map (·.name)).Nodup)
    {order : List OwnedVariable}
    (isOrder : order.Perm scanner.owned)
    (now : Time)
    (text : List Char)
    (span : Nat)
    {registry : Registry}
    (consistent : registry.Consistent) :
    scanner.sweepAlong order now text span registry = scanner.sweep now text span registry := by
  let read := (registry.query now { kind := some .var }).2
  have consistentRead : read.Consistent := (consistent.evolves_readAll now _ _).consistent
  let isStale := fun item => !isCurrent read (desired text) item
  have staleNoted : ∀ item ∈ order.filter isStale, item ∈ scanner.owned :=
    fun item listed => isOrder.mem_iff.mp (List.mem_of_mem_filter listed)
  have orderNames : (order.map (·.name)).Nodup := (isOrder.map _).nodup_iff.mpr names
  have forgotten := foldl_forget names read staleNoted
    (orderNames.sublist (List.filter_sublist.map _))
  have sameNotes : scanner.owned.filter (·.name ∉ (order.filter isStale).map (·.name)) =
      scanner.owned.filter fun item => isCurrent read (desired text) item := by
    apply List.filter_congr
    intro item owned
    rw [Bool.eq_iff_iff, decide_eq_true_eq, name_mem_map_iff names staleNoted owned,
      List.mem_filter, isOrder.mem_iff]
    simp [isStale, owned]
  have sameRegistry : read.removeAll ((order.filter isStale).map (·.id)) =
      read.removeAll ((scanner.owned.filter isStale).map (·.id)) :=
    consistentRead.removeAll_congr fun id => ((isOrder.filter _).map _).mem_iff
  rw [sameNotes, sameRegistry] at forgotten
  exact congrArg (List.foldl (addVariable now span _) · (desired text)) forgotten

end VariableScanner

/-! ## The outcome -/

namespace Registry

/-- In every state of every run from the empty registry, whatever belongs to
what: two removals lead to the same registry in either order; a list of removals
leads to the same registry in every order; and a sweep of a scanner, whose notes
have names of their own, comes to the same in whatever order it walks the notes,
for the registry and for the notes. -/
theorem removals_in_any_order (steps : List Step) :
    let registry := run {} steps
    (∀ first second,
      (registry.removing first).removing second = (registry.removing second).removing first) ∧
    (∀ ids others : List EntryId, ids.Perm others →
      ids.foldl removing registry = others.foldl removing registry) ∧
    ∀ (scanner : VariableScanner) (order : List OwnedVariable) now text span,
      (scanner.owned.map (·.name)).Nodup → order.Perm scanner.owned →
        scanner.sweepAlong order now text span registry =
          scanner.sweep now text span registry := by
  intro registry
  have consistent : registry.Consistent := consistent_run steps
  have anyOrder (ids others : List EntryId) (isOrder : ids.Perm others) :
      ids.foldl removing registry = others.foldl removing registry := by
    rw [foldl_removing, foldl_removing]
    exact consistent.removeAll_congr fun id => isOrder.mem_iff
  refine ⟨?_, anyOrder, ?_⟩
  · intro first second
    exact anyOrder [first, second] [second, first] (List.Perm.swap second first [])
  · intro scanner order now text span names isOrder
    exact VariableScanner.sweepAlong_eq_sweep names isOrder now text span consistent

/-- Three variables, the second of which belongs to the first, and a fourth that
belongs to the second. -/
def sampleNest : List Step :=
  let element (name : String) (named : name ≠ "") : Descriptor :=
    .var { name := ⟨name, named⟩, typeName := "", description := "" }
  [ ⟨0, .add (element "outer" (by decide)) none none⟩,
    ⟨0, .add (element "inner" (by decide)) (some ⟨0⟩) none⟩,
    ⟨0, .add (element "kept" (by decide)) none none⟩,
    ⟨0, .add (element "leaf" (by decide)) (some ⟨1⟩) none⟩ ]

/-- The notes of a scanner on the first three variables. -/
def sampleNotes : List OwnedVariable :=
  [⟨"outer", none, ⟨0⟩⟩, ⟨"inner", none, ⟨1⟩⟩, ⟨"kept", none, ⟨2⟩⟩]

/-- Whether the owner goes first or last, the third variable is all that is left, and
a sweep of a text that binds it finds it current. -/
theorem sampleNest_in_any_order :
    let registry := run {} sampleNest
    let scanner : VariableScanner := { owned := sampleNotes }
    let text := "<c:set var=\"kept\">".toList
    [⟨0⟩, ⟨1⟩, ⟨3⟩].foldl removing registry = [⟨3⟩, ⟨1⟩, ⟨0⟩].foldl removing registry ∧
      ([⟨3⟩, ⟨1⟩, ⟨0⟩].foldl removing registry).ids = [⟨2⟩] ∧
      (sampleNotes.map (·.name)).Nodup ∧ sampleNotes.reverse.Perm sampleNotes ∧
      scanner.sweepAlong sampleNotes.reverse 9 text 5 registry = scanner.sweep 9 text 5 registry ∧
      (scanner.sweep 9 text 5 registry).1.owned = [⟨"kept", none, ⟨2⟩⟩] := by
  intro registry scanner text
  obtain ⟨-, removals, sweeps⟩ := removals_in_any_order sampleNest
  have isOrder : [(⟨0⟩ : EntryId), ⟨1⟩, ⟨3⟩].Perm [⟨3⟩, ⟨1⟩, ⟨0⟩] := by decide
  have names : (sampleNotes.map (·.name)).Nodup := by decide
  have reversed : sampleNotes.reverse.Perm sampleNotes := List.reverse_perm _
  exact ⟨removals _ _ isOrder, by decide +kernel, names, reversed,
    sweeps scanner _ 9 text 5 names reversed, by decide +kernel⟩

end Registry
end JspCompletion
