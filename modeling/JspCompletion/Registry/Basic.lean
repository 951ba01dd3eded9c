import JspCompletion.Descriptor.Basic
import JspCompletion.Time

/-!
# The registry of descriptors

The registry holds descriptors under identities that are never used twice.
An entry may belong to an owner, and goes when its owner goes.  An entry may
also have a finite life: once it has passed, the next reader asks the entry's
plan whether to keep, replace or remove the element.

Two indexes accompany the entries, one by kind and one by owner.  Both are
lists of pairs, so that what they say about an entry can be read off directly.
-/

namespace JspCompletion

/-- The identity of an entry. -/
structure EntryId where
  /-- Its number, counted from zero in order of insertion. -/
  value : Nat
deriving DecidableEq, Repr

/-- What is done with an entry whose life has passed. -/
inductive Refresh
  /-- Keep the element and start its life again. -/
  | keep
  /-- Put a new element in place and start its life again. -/
  | replace (element : Descriptor)
  /-- Remove the entry. -/
  | remove
deriving DecidableEq, Repr

/-- A finite life. -/
structure Lifetime where
  /-- How long the element lives, in milliseconds. -/
  span : Nat
  /-- The decisions taken whenever that time has passed, in order.  When none
  is left, the element is kept. -/
  plan : List Refresh
deriving DecidableEq, Repr

namespace Lifetime

/-- The next decision. -/
def decision (lifetime : Lifetime) : Refresh :=
  lifetime.plan.head?.getD .keep

/-- The life after the next decision was taken. -/
def next (lifetime : Lifetime) : Lifetime :=
  { lifetime with plan := lifetime.plan.tail }

end Lifetime

/-- A registered descriptor. -/
structure Entry where
  /-- The descriptor. -/
  element : Descriptor
  /-- Its life, absent if it lives until it is removed. -/
  lifetime : Option Lifetime
  /-- When its current life began. -/
  lastChanged : Time
  /-- The entry it belongs to. -/
  owner : Option EntryId
deriving DecidableEq, Repr

/-- A question put to the plan of an entry. -/
structure RefreshCall where
  /-- The entry that was asked. -/
  entry : EntryId
  /-- When it was asked. -/
  time : Time
deriving DecidableEq, Repr

/-- The store of descriptors. -/
structure Registry where
  /-- The entries, in order of insertion. -/
  entries : List (EntryId × Entry) := []
  /-- The kind of each entry, in order of insertion. -/
  kindIndex : List (Kind × EntryId) := []
  /-- Owners with the entries that belong to them, in order of insertion. -/
  childIndex : List (EntryId × EntryId) := []
  /-- The number of the next entry. -/
  nextId : Nat := 0
  /-- The questions put to plans so far, the latest first. -/
  calls : List RefreshCall := []
deriving DecidableEq, Repr

/-- Why a registry refuses a request. -/
inductive RegistryError
  /-- The identity belongs to no entry. -/
  | notRegistered (id : EntryId)
deriving DecidableEq, Repr

/-- The error as shown to the user. -/
def RegistryError.message : RegistryError → String
  | notRegistered id => "entry EntryId(" ++ toString id.value ++ ") is not part of the registry"

namespace Registry

/-- The entry with an identity. -/
def entry? (registry : Registry) (id : EntryId) : Option Entry :=
  (registry.entries.find? (·.1 == id)).map (·.2)

/-- The identity belongs to an entry. -/
def contains (registry : Registry) (id : EntryId) : Bool :=
  (registry.entry? id).isSome

/-- The number of entries. -/
def size (registry : Registry) : Nat :=
  registry.entries.length

/-- The entries of a kind, in order of insertion. -/
def ofKind (registry : Registry) (kind : Kind) : List EntryId :=
  (registry.kindIndex.filter (·.1 == kind)).map (·.2)

/-- The entries that belong to an owner, in order of insertion. -/
def ownedBy (registry : Registry) (owner : EntryId) : List EntryId :=
  (registry.childIndex.filter (·.1 == owner)).map (·.2)

/-- How often the plan of an entry was asked. -/
def callCount (registry : Registry) (id : EntryId) : Nat :=
  registry.calls.countP (·.entry == id)

/-- Insert a descriptor under a fresh identity. -/
def add
    (registry : Registry)
    (now : Time)
    (element : Descriptor)
    (owner : Option EntryId := none)
    (lifetime : Option Lifetime := none) : EntryId × Registry :=
  let id : EntryId := ⟨registry.nextId⟩
  (id,
    { registry with
      entries :=
        registry.entries ++ [(id, { element, lifetime, lastChanged := now, owner })]
      kindIndex := registry.kindIndex ++ [(element.kind, id)]
      childIndex :=
        match owner with
        | some owner => registry.childIndex ++ [(owner, id)]
        | none => registry.childIndex
      nextId := registry.nextId + 1 })

/-- Take one entry out of the registry and both indexes, with all that the
index by owner says about it. -/
def erase (registry : Registry) (id : EntryId) : Registry :=
  { registry with
    entries := registry.entries.filter (·.1 != id)
    kindIndex := registry.kindIndex.filter (·.2 != id)
    childIndex := registry.childIndex.filter fun pair => pair.1 != id && pair.2 != id }

/-- Taking an entry out leaves fewer pairs than the ones it owns. -/
theorem length_childIndex_erase_add_le
    (registry : Registry)
    (id : EntryId) :
    (registry.erase id).childIndex.length + (registry.ownedBy id).length ≤
      registry.childIndex.length := by
  simp only [erase, ownedBy, List.length_map]
  induction registry.childIndex with
  | nil => simp
  | cons pair rest inductionHypothesis =>
      by_cases owned : pair.1 = id <;> by_cases self : pair.2 = id <;>
        simp [owned, self] at * <;> omega

/-- Remove the entries of a list, each with everything that belongs to it.
Identities without an entry are passed over. -/
def removeAll (registry : Registry) (ids : List EntryId) : Registry :=
  match ids with
  | [] => registry
  | id :: rest =>
      if registry.contains id then
        (registry.erase id).removeAll (registry.ownedBy id ++ rest)
      else
        registry.removeAll rest
termination_by registry.childIndex.length + ids.length
decreasing_by
  · have := length_childIndex_erase_add_le registry id
    simp only [List.length_append, List.length_cons]
    omega
  · simp only [List.length_cons]
    omega

/-- Remove an entry and everything that belongs to it. -/
def remove (registry : Registry) (id : EntryId) : Except RegistryError (Descriptor × Registry) :=
  match registry.entry? id with
  | some entry => .ok (entry.element, registry.removeAll [id])
  | none => .error (.notRegistered id)

/-- Change the entry with an identity. -/
def update (registry : Registry) (id : EntryId) (change : Entry → Entry) : Registry :=
  { registry with
    entries :=
      registry.entries.map fun item => if item.1 == id then (item.1, change item.2) else item }

/-- Change the kind under which an identity is indexed. -/
def reindex (registry : Registry) (id : EntryId) (kind : Kind) : Registry :=
  { registry with
    kindIndex :=
      registry.kindIndex.map fun pair => if pair.2 == id then (kind, pair.2) else pair }

/-- The life of an entry has passed. -/
def isExpired (entry : Entry) (now : Time) : Bool :=
  match entry.lifetime with
  | some lifetime => lifetime.span ≤ elapsed entry.lastChanged now
  | none => false

/-- Note a question put to the plan of an entry, and use up its decision. -/
def ask (registry : Registry) (now : Time) (id : EntryId) : Registry :=
  let registry := { registry with calls := { entry := id, time := now } :: registry.calls }
  registry.update id fun entry => { entry with lifetime := entry.lifetime.map (·.next) }

/-- Carry out a decision about an entry with an element. -/
def decide
    (registry : Registry)
    (now : Time)
    (id : EntryId)
    (element : Descriptor) : Refresh → Option Descriptor × Registry
  | .keep => (some element, registry.update id fun entry => { entry with lastChanged := now })
  | .replace element =>
      (some element,
        (registry.update id fun entry => { entry with element, lastChanged := now }).reindex id
          element.kind)
  | .remove => (none, registry.removeAll [id])

/-- Read an entry, after asking its plan if its life has passed. -/
def get (registry : Registry) (now : Time) (id : EntryId) : Option Descriptor × Registry :=
  match registry.entry? id with
  | none => (none, registry)
  | some entry =>
      if isExpired entry now then
        let decision := (entry.lifetime.map Lifetime.decision).getD .keep
        (registry.ask now id).decide now id entry.element decision
      else
        (some entry.element, registry)

end Registry
end JspCompletion
