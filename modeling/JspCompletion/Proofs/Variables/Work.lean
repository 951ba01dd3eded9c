import JspCompletion.Proofs.Variables.Filling

/-!
# Scanners at work

A scanner shares its registry with others.  This module says what it means that
the scanner and the others keep apart, that the registry is in line with a text,
and what holds of a scanner at any time: it has noted what it registered and is
still there.  Where the noted variables are those that the text declares, the
registry is in line with the text.
-/

namespace JspCompletion

open Registry Markup VariableScanner

/-! ## Variables of a registry -/

/-- A variable of that name is registered under an identity. -/
def Registry.HasVariable (registry : Registry) (id : EntryId) (name : String) : Prop :=
  ∃ var, (registry.entry? id).map Entry.element = some (.var var) ∧ var.name.text = name

theorem Registry.HasVariable.congr
    {before after : Registry}
    {id : EntryId}
    {name : String}
    (has : before.HasVariable id name)
    (same : (after.entry? id).map Entry.element = (before.entry? id).map Entry.element) :
    after.HasVariable id name := by
  obtain ⟨var, found, named⟩ := has
  exact ⟨var, same.trans found, named⟩

theorem Registry.HasVariable.mem_ids
    {registry : Registry}
    {id : EntryId}
    {name : String}
    (has : registry.HasVariable id name) :
    id ∈ registry.ids := by
  obtain ⟨var, found, -⟩ := has
  obtain ⟨entry, entryFound, -⟩ := Option.map_eq_some_iff.mp found
  exact (mem_ids_iff_exists registry id).mpr ⟨entry, entryFound⟩

theorem VariableScanner.Shows.hasVariable_iff
    {registry : Registry}
    {item : OwnedVariable}
    {entry : Entry}
    (isShown : Shows item entry)
    (found : registry.entry? item.id = some entry)
    (name : String) :
    registry.HasVariable item.id name ↔ item.name = name := by
  obtain ⟨var, elementEq, isVariable⟩ := isShown.isVariable
  have element : (registry.entry? item.id).map Entry.element = some (.var var) := by
    rw [found, Option.map_some, elementEq]
  constructor
  · rintro ⟨other, otherFound, rfl⟩
    rw [element] at otherFound
    cases otherFound
    exact isVariable.name.symm
  · rintro rfl
    exact ⟨var, element, isVariable.name⟩

/-! ## A scanner at work -/

/-- A scanner, the registry that it shares with others, and what it has
registered so far. -/
structure Work where
  scanner : VariableScanner := {}
  registry : Registry
  /-- All that the scanner ever registered. -/
  made : List EntryId := []
deriving DecidableEq, Repr

namespace Work

/-- The scanner sweeps a text, and what comes into the registry is its work. -/
def sweep (work : Work) (now : Time) (text : List Char) (span : Nat) : Work :=
  let swept := work.scanner.sweep now text span work.registry
  { scanner := swept.1
    registry := swept.2
    made := work.made ++ swept.2.ids.filter (work.registry.nextId ≤ ·.value) }

/-- A variable of others has the name. -/
def Taken (work : Work) (name : String) : Prop :=
  ∃ id, id ∉ work.made ∧ work.registry.HasVariable id name

/-- The text binds the name, and no variable of others has it. -/
def Wants (work : Work) (text : List Char) (name : String) : Prop :=
  (∃ binding ∈ bindings text, binding.name = name) ∧ ¬work.Taken name

/-- Variables of others live until they are removed. -/
def Static (work : Work) : Prop :=
  ∀ item ∈ work.registry.entries, item.1 ∉ work.made →
    item.2.element.kind = .var → item.2.lifetime = none

/-- The scanner and the others keep apart. -/
structure Apart (start : Nat) (work : Work) : Prop where
  static : work.Static
  /-- Variables of others were registered before the start. -/
  early : ∀ item ∈ work.registry.entries, item.1 ∉ work.made →
    item.2.element.kind = .var → item.1.value < start
  /-- No entry belongs to an entry of the scanner. -/
  unowned : ∀ item ∈ work.registry.entries, ∀ owner ∈ work.made,
    owner ∈ work.registry.ids → item.2.owner ≠ some owner

instance (start : Nat) (work : Work) : Decidable (work.Apart start) :=
  decidable_of_iff
    ((∀ item ∈ work.registry.entries, item.1 ∉ work.made →
        item.2.element.kind = .var → item.2.lifetime = none) ∧
      (∀ item ∈ work.registry.entries, item.1 ∉ work.made →
        item.2.element.kind = .var → item.1.value < start) ∧
      ∀ item ∈ work.registry.entries, ∀ owner ∈ work.made,
        owner ∈ work.registry.ids → item.2.owner ≠ some owner)
    ⟨fun ⟨static, early, unowned⟩ => ⟨static, early, unowned⟩,
      fun apart => ⟨apart.static, apart.early, apart.unowned⟩⟩

/-- The entries of the scanner are exactly one variable for each name that the
text binds and no variable of others has, typed by its last bean. -/
structure InLine (text : List Char) (work : Work) : Prop where
  /-- Every entry of the scanner is a wanted variable. -/
  wanted : ∀ id ∈ work.made, ∀ entry, work.registry.entry? id = some entry →
    ∃ var, entry.element = .var var ∧ work.Wants text var.name.text ∧
      IsVariable (var.name.text, lastClass (bindings text) var.name.text) var
  /-- Every wanted variable is there once. -/
  once : ∀ name, work.Wants text name →
    ∃! id, id ∈ work.made ∧ work.registry.HasVariable id name
  /-- No entry of the scanner shares its name with another variable. -/
  alone : ∀ id ∈ work.made, ∀ other name, work.registry.HasVariable id name →
    work.registry.HasVariable other name → other = id

/-- What holds of a scanner at work at any time: it has noted what it registered
and is still there, each as the variable that it is, and all with names of their
own. -/
structure Faithful (start : Nat) (work : Work) : Prop where
  consistent : work.registry.Consistent
  start_le : start ≤ work.registry.nextId
  made_lt : ∀ id ∈ work.made, id.value < work.registry.nextId
  owned_made : ∀ item ∈ work.scanner.owned, item.id ∈ work.made
  made_owned : ∀ id ∈ work.made, id ∈ work.registry.ids →
    ∃ item ∈ work.scanner.owned, item.id = id
  names : (work.scanner.owned.map (·.name)).Nodup
  shown : ∀ item ∈ work.scanner.owned, ∀ entry,
    work.registry.entry? item.id = some entry → Shows item entry
  free : ∀ item ∈ work.scanner.owned, item.id ∈ work.registry.ids → ¬work.Taken item.name

/-- A scanner that has done its work for a text. -/
structure Complete (text : List Char) (work : Work) : Prop where
  live : ∀ item ∈ work.scanner.owned, item.id ∈ work.registry.ids
  wanted : ∀ item ∈ work.scanner.owned, (item.name, item.typeName) ∈ desired text
  covered : ∀ wanted ∈ desired text,
    (∃ item ∈ work.scanner.owned, item.name = wanted.1) ∨ work.Taken wanted.1

/-! ## What is in line -/

section States

variable {start : Nat} {text : List Char} {work : Work}

/-- An entry of the scanner that is there, as the scanner noted it. -/
theorem Faithful.exists_shown
    (faithful : work.Faithful start)
    {id : EntryId}
    {entry : Entry}
    (made : id ∈ work.made)
    (found : work.registry.entry? id = some entry) :
    ∃ item ∈ work.scanner.owned, item.id = id ∧ Shows item entry := by
  have live := (mem_ids_iff_exists work.registry id).mpr ⟨entry, found⟩
  obtain ⟨item, owned, rfl⟩ := faithful.made_owned id made live
  exact ⟨item, owned, rfl, faithful.shown item owned entry found⟩

theorem Faithful.owned_of_hasVariable
    (faithful : work.Faithful start)
    {id : EntryId}
    {name : String}
    (made : id ∈ work.made)
    (has : work.registry.HasVariable id name) :
    ∃ item ∈ work.scanner.owned, item.id = id ∧ item.name = name := by
  obtain ⟨var, found, named⟩ := has
  obtain ⟨entry, entryFound, element⟩ := Option.map_eq_some_iff.mp found
  obtain ⟨item, owned, rfl, isShown⟩ := faithful.exists_shown made entryFound
  exact ⟨item, owned, rfl, (isShown.hasVariable_iff entryFound name).mp ⟨var, found, named⟩⟩

/-- What the scanner has noted under one name is one variable. -/
theorem Faithful.eq_of_name_eq
    (faithful : work.Faithful start)
    {item other : OwnedVariable}
    (owned : item ∈ work.scanner.owned)
    (otherOwned : other ∈ work.scanner.owned)
    (sameName : item.name = other.name) :
    item = other :=
  List.inj_on_of_nodup_map faithful.names owned otherOwned sameName

theorem Faithful.eq_of_id_eq
    (faithful : work.Faithful start)
    {item other : OwnedVariable}
    (owned : item ∈ work.scanner.owned)
    (otherOwned : other ∈ work.scanner.owned)
    (live : item.id ∈ work.registry.ids)
    (sameId : item.id = other.id) :
    item = other := by
  obtain ⟨entry, found⟩ :=
    (mem_ids_iff_exists _ item.id).mp live
  have has := ((faithful.shown item owned entry found).hasVariable_iff found item.name).mpr rfl
  rw [sameId] at found has
  have named :=
    ((faithful.shown other otherOwned entry found).hasVariable_iff found item.name).mp has
  exact faithful.eq_of_name_eq owned otherOwned named.symm

theorem Faithful.alone
    (faithful : work.Faithful start)
    {id other : EntryId}
    {name : String}
    (made : id ∈ work.made)
    (has : work.registry.HasVariable id name)
    (otherHas : work.registry.HasVariable other name) :
    other = id := by
  obtain ⟨item, owned, rfl, rfl⟩ := faithful.owned_of_hasVariable made has
  by_cases otherMade : other ∈ work.made
  · obtain ⟨otherItem, otherOwned, rfl, sameName⟩ :=
      faithful.owned_of_hasVariable otherMade otherHas
    rw [faithful.eq_of_name_eq otherOwned owned sameName]
  · exact absurd ⟨other, otherMade, otherHas⟩ (faithful.free item owned has.mem_ids)

/-- A scanner that has done its work has brought the registry in line. -/
theorem Faithful.inLine
    (faithful : work.Faithful start)
    (complete : work.Complete text) :
    work.InLine text := by
  have alone : ∀ id ∈ work.made, ∀ other name, work.registry.HasVariable id name →
      work.registry.HasVariable other name → other = id := by
    intro id made other name has otherHas
    exact faithful.alone made has otherHas
  refine ⟨?_, ?_, alone⟩
  · intro id made entry found
    obtain ⟨item, owned, rfl, isShown⟩ := faithful.exists_shown made found
    obtain ⟨var, element, isVariable⟩ := isShown.isVariable
    obtain ⟨bound, typeEq⟩ :=
      ((lists_desired text).mem_iff item.name item.typeName).mp (complete.wanted item owned)
    have named : var.name.text = item.name := isVariable.name
    refine ⟨var, element, ?_, ?_⟩
    · rw [named]
      exact ⟨bound, faithful.free item owned (complete.live item owned)⟩
    · rw [named, ← typeEq]
      exact isVariable
  · rintro name ⟨bound, free⟩
    have listed := ((lists_desired text).mem_iff name _).mpr ⟨bound, rfl⟩
    obtain ⟨item, owned, named⟩ : ∃ item ∈ work.scanner.owned, item.name = name :=
      (complete.covered _ listed).resolve_right free
    obtain ⟨entry, found⟩ := (mem_ids_iff_exists _ item.id).mp (complete.live item owned)
    have made := faithful.owned_made item owned
    have has := ((faithful.shown item owned entry found).hasVariable_iff found name).mpr named
    refine ⟨item.id, ⟨made, has⟩, ?_⟩
    rintro other ⟨otherMade, otherHas⟩
    exact alone item.id made other name has otherHas

end States

end Work
end JspCompletion
