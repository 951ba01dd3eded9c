import JspCompletion.Proofs.Registry.Consistency

/-!
# Runs of a registry

A run starts from the empty registry and mixes all its operations in any
order, each at any clock reading.  The plans of the entries stand for any
decisions that may be taken when their lives have passed.

The main result says that both indexes are exact in every state of a run, that
identities are never used again, and that no entry outlives its owner where
owners are there from the start.  Listeners of a refreshing query change the
registry through the same operations, so what they do is part of a run.
-/

namespace JspCompletion
namespace Registry

/-- Something that is done with a registry. -/
inductive Operation
  | add (element : Descriptor) (owner : Option EntryId) (lifetime : Option Lifetime)
  | remove (id : EntryId)
  | get (id : EntryId)
  | query (query : Query)
  | importLibrary (library : TagLibrary)
deriving DecidableEq, Repr

/-- An operation and the clock reading at which it is carried out. -/
structure Step where
  now : Time
  operation : Operation
deriving DecidableEq, Repr

/-- The registry after a step.  A refused removal changes nothing. -/
def after (registry : Registry) (step : Step) : Registry :=
  match step.operation with
  | .add element owner lifetime => (registry.add step.now element owner lifetime).2
  | .remove id =>
      match registry.remove id with
      | .ok (_, registry) => registry
      | .error _ => registry
  | .get id => (registry.get step.now id).2
  | .query query => (registry.query step.now query).2
  | .importLibrary library => (registry.importLibrary step.now library).2

/-- The registry after the steps of a run. -/
def run (registry : Registry) (steps : List Step) : Registry :=
  steps.foldl after registry

/-- The owner named by a step, if any, is there. -/
def OwnerThere (registry : Registry) (step : Step) : Prop :=
  match step.operation with
  | .add _ (some owner) _ => registry.contains owner = true
  | _ => True

/-- Every step of a run finds the owner that it names. -/
def OwnersThere (registry : Registry) : List Step → Prop
  | [] => True
  | step :: rest => registry.OwnerThere step ∧ (registry.after step).OwnersThere rest

@[simp] theorem run_nil (registry : Registry) : registry.run [] = registry := rfl

@[simp] theorem run_cons
    (registry : Registry)
    (step : Step)
    (rest : List Step) :
    registry.run (step :: rest) = (registry.after step).run rest := rfl

/-! ## One step -/

/-- Adding descriptors under one owner. -/
theorem Consistent.evolves_addAll
    {registry : Registry}
    (consistent : registry.Consistent)
    (now : Time)
    (owner : EntryId)
    (ownerThere : owner ∈ registry.ids)
    (elements : List Descriptor) :
    Evolves True registry (registry.addAll now (some owner) elements) := by
  induction elements generalizing registry with
  | nil => exact Evolves.refl consistent
  | cons element rest inductionHypothesis =>
      have added : Evolves True registry (registry.add now element (some owner)).2 := by
        refine (consistent.evolves_add now element (some owner) none).imp ?_
        rintro _ parent named
        cases named
        exact ownerThere
      have stillThere : owner ∈ (registry.add now element (some owner)).2.ids := by
        rw [ids_add]
        exact List.mem_append_left _ ownerThere
      exact added.andThen (inductionHypothesis added.consistent stillThere)

/-- Registering a library puts its functions and tags under an owner that was
added just before. -/
theorem Consistent.evolves_importLibrary
    {registry : Registry}
    (consistent : registry.Consistent)
    (now : Time)
    (library : TagLibrary) :
    Evolves True registry (registry.importLibrary now library).2 := by
  let sameUri : Query :=
    { kind := some .library
      rules := [{ property := "uri", values := [library.uri] }] }
  have queried : Evolves True registry (registry.query now sameUri).2 :=
    consistent.evolves_readAll now sameUri _
  have removed := queried.consistent.evolves_removeAll
    ((registry.query now sameUri).1.map (·.1))
  have added : Evolves True _ _ :=
    (removed.consistent.evolves_add now (.library library) none none).imp (by simp)
  refine ((queried.andThen removed).andThen added).andThen ?_
  apply added.consistent.evolves_addAll
  rw [ids_add]
  exact List.mem_append_right _ (List.mem_singleton.mpr rfl)

/-- What one step does to a registry. -/
theorem Consistent.evolves_after
    {registry : Registry}
    (consistent : registry.Consistent)
    (step : Step) :
    Evolves (registry.OwnerThere step) registry (registry.after step) := by
  obtain ⟨now, operation⟩ := step
  cases operation with
  | add element owner lifetime =>
      refine (consistent.evolves_add now element owner lifetime).imp ?_
      rintro there parent rfl
      exact (contains_iff_mem_ids registry parent).mp there
  | remove id =>
      simp only [after, remove]
      cases registry.entry? id with
      | none => exact (Evolves.refl consistent).imp fun _ => trivial
      | some entry => exact (consistent.evolves_removeAll [id]).imp fun _ => trivial
  | get id => exact (consistent.evolves_get now id).imp fun _ => trivial
  | query query => exact (consistent.evolves_readAll now query _).imp fun _ => trivial
  | importLibrary library =>
      exact (consistent.evolves_importLibrary now library).imp fun _ => trivial

/-! ## Whole runs -/

/-- What the steps of a run do to a registry. -/
theorem Consistent.evolves_run
    {registry : Registry}
    (consistent : registry.Consistent)
    (steps : List Step) :
    Evolves (registry.OwnersThere steps) registry (registry.run steps) := by
  induction steps generalizing registry with
  | nil => exact Evolves.refl consistent
  | cons step rest inductionHypothesis =>
      have stepped := consistent.evolves_after step
      exact stepped.trans (inductionHypothesis stepped.consistent)

/-- Every state of a run is consistent. -/
theorem consistent_run (steps : List Step) : (run {} steps).Consistent :=
  (consistent_empty.evolves_run steps).consistent

/-- An identity that was in use and is no longer does not come back. -/
theorem Consistent.not_mem_ids_run
    {registry : Registry}
    (consistent : registry.Consistent)
    {id : EntryId}
    (used : id ∈ registry.ids)
    (later latest : List Step)
    (gone : id ∉ (registry.run later).ids) :
    id ∉ ((registry.run later).run latest).ids := by
  have first := consistent.evolves_run later
  have second := first.consistent.evolves_run latest
  have below := consistent.value_lt_nextId used
  exact second.not_mem_ids (Nat.lt_of_lt_of_le below first.nextId_le) gone

/-- In every state of every run from the empty registry, the index by kind and
the index by owner hold exactly what the entries say, and the latter nothing
twice; identities lie below the next one, which never moves back, and those
that are gone stay gone; and where every entry was put under an owner that was
there, all owners are there. -/
theorem run_keeps_indexes_exact (steps : List Step) :
    let registry := run {} steps
    (∀ kind id, id ∈ registry.ofKind kind ↔
      ∃ entry, registry.entry? id = some entry ∧ entry.element.kind = kind) ∧
    (∀ owner id, id ∈ registry.ownedBy owner ↔
      ∃ entry, registry.entry? id = some entry ∧ entry.owner = some owner) ∧
    (∀ owner, (registry.ownedBy owner).Nodup) ∧
    (∀ id, registry.contains id = true → id.value < registry.nextId) ∧
    (∀ later, registry.nextId ≤ (registry.run later).nextId) ∧
    (∀ later latest id, registry.contains id = true →
      (registry.run later).contains id = false →
      ((registry.run later).run latest).contains id = false) ∧
    (OwnersThere {} steps → ∀ id entry owner, registry.entry? id = some entry →
      entry.owner = some owner → registry.contains owner = true) := by
  intro registry
  have evolves := consistent_empty.evolves_run steps
  have consistent : registry.Consistent := evolves.consistent
  refine ⟨consistent.mem_ofKind_iff, consistent.mem_ownedBy_iff, consistent.nodup_ownedBy,
    ?_, ?_, ?_, ?_⟩
  · intro id used
    exact consistent.value_lt_nextId ((contains_iff_mem_ids registry id).mp used)
  · intro later
    exact (consistent.evolves_run later).nextId_le
  · intro later latest id used gone
    rw [← Bool.not_eq_true, contains_iff_mem_ids] at gone ⊢
    exact consistent.not_mem_ids_run ((contains_iff_mem_ids registry id).mp used)
      later latest gone
  · intro there id entry owner found owned
    have housed := evolves.housed there housed_empty
    rw [contains_iff_mem_ids]
    exact housed (id, entry) (mem_of_entry?_eq_some found) owner owned

/-- A short run: a keyword under a variable that is read after its life has
passed. -/
def sampleRun : List Step :=
  let name : Name := ⟨"eq", by decide⟩
  [ { now := 0, operation := .add (.var { name, typeName := "", description := "" }) none none },
    { now := 1
      operation :=
        .add (.keyword { name, fullName := "", description := "" }) (some ⟨0⟩)
          (some { span := 5, plan := [.replace (.scope { name, description := "" })] }) },
    { now := 9, operation := .get ⟨1⟩ } ]

/-- In the short run every owner is there, and the child, which has become a
scope, is listed as one and has its owner. -/
theorem sampleRun_keeps_indexes_exact :
    let registry := run {} sampleRun
    OwnersThere {} sampleRun ∧
    (⟨1⟩ ∈ registry.ofKind .scope ↔
      ∃ entry, registry.entry? ⟨1⟩ = some entry ∧ entry.element.kind = .scope) ∧
    (∀ id entry owner, registry.entry? id = some entry →
      entry.owner = some owner → registry.contains owner = true) := by
  intro registry
  have there : OwnersThere {} sampleRun := ⟨trivial, rfl, trivial, trivial⟩
  have exact := run_keeps_indexes_exact sampleRun
  exact ⟨there, exact.1 .scope ⟨1⟩, exact.2.2.2.2.2.2 there⟩

end Registry
end JspCompletion
