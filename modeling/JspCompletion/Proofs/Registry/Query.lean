import JspCompletion.Proofs.Registry.Consistency

/-!
# Answers of a registry

Reading an entry whose life has not passed changes nothing.  A query by kind
over such entries therefore filters the entries of the kind in order of
insertion, and leaves the registry as it is.
-/

namespace JspCompletion

/-- The library that a descriptor describes. -/
def Descriptor.library? : Descriptor → Option TagLibrary
  | library item => some item
  | _ => none

namespace Registry

/-- The registered libraries, in order of insertion. -/
def libraries (registry : Registry) : List TagLibrary :=
  registry.entries.filterMap (·.2.element.library?)

/-- No entry of the kind has a life that has passed. -/
def AllLive (registry : Registry) (kind : Kind) (now : Time) : Prop :=
  ∀ item ∈ registry.entries, item.2.element.kind = kind → isExpired item.2 now = false

/-- Reading an entry whose life has not passed, or none at all, changes nothing. -/
theorem get_snd_of_fresh
    (registry : Registry)
    (now : Time)
    (id : EntryId)
    (fresh : ∀ entry, registry.entry? id = some entry → isExpired entry now = false) :
    (registry.get now id).2 = registry := by
  rw [get]
  cases found : registry.entry? id with
  | none => rfl
  | some entry => simp [fresh entry found]

namespace Consistent

variable {registry : Registry} {now : Time}

/-- The index by kind lists the entries of a kind in order of insertion. -/
theorem ofKind_eq_filter
    (consistent : registry.Consistent)
    (kind : Kind) :
    registry.ofKind kind =
      (registry.entries.filter (·.2.element.kind == kind)).map (·.1) := by
  rw [ofKind, consistent.kinds, kindPairs, List.filter_map, List.map_map]
  rfl

/-- Reading an entry whose life has not passed gives its element. -/
theorem get_of_not_expired
    (consistent : registry.Consistent)
    {item : EntryId × Entry}
    (member : item ∈ registry.entries)
    (live : isExpired item.2 now = false) :
    registry.get now item.1 = (some item.2.element, registry) := by
  have found : registry.entry? item.1 = some item.2 :=
    (consistent.entry?_eq_some_iff item.1 item.2).mpr member
  rw [get, found]
  simp [live]

/-- Reading entries whose lives have not passed filters them. -/
theorem readAll_of_not_expired
    (consistent : registry.Consistent)
    (query : Query)
    (items : List (EntryId × Entry))
    (members : ∀ item ∈ items, item ∈ registry.entries)
    (live : ∀ item ∈ items, isExpired item.2 now = false) :
    registry.readAll now query (items.map (·.1)) =
      ((items.filter (query.selects ·.2.element)).map fun item => (item.1, item.2.element),
        registry) := by
  induction items with
  | nil => rfl
  | cons item rest inductionHypothesis =>
      have read := consistent.get_of_not_expired (members item List.mem_cons_self)
        (live item List.mem_cons_self)
      have readRest := inductionHypothesis
        (fun other member => members other (List.mem_cons_of_mem _ member))
        (fun other member => live other (List.mem_cons_of_mem _ member))
      rw [List.map_cons, readAll, read]
      simp only [readRest]
      by_cases selected : query.selects item.2.element = true
      · simp [selected]
      · simp [selected]

/-- A query by kind filters the entries of the kind and changes nothing. -/
theorem query_of_allLive
    (consistent : registry.Consistent)
    {kind : Kind}
    (live : registry.AllLive kind now)
    (rules : List FilterRule) :
    registry.query now { kind := some kind, rules } =
      ((registry.entries.filter fun item =>
          item.2.element.kind == kind && rules.all (·.accepts item.2.element)).map
        fun item => (item.1, item.2.element), registry) := by
  have ofKind (item : EntryId × Entry)
      (member : item ∈ registry.entries.filter (·.2.element.kind == kind)) :
      item ∈ registry.entries ∧ item.2.element.kind = kind := by
    simpa using List.mem_filter.mp member
  change registry.readAll now _ (registry.ofKind kind) = _
  rw [consistent.ofKind_eq_filter,
    consistent.readAll_of_not_expired _ _ (fun item member => (ofKind item member).1)
      (fun item member => live item (ofKind item member).1 (ofKind item member).2),
    List.filter_filter]
  congr 2
  apply List.filter_congr
  intro item _
  by_cases same : item.2.element.kind = kind
  · simp [Query.selects, same]
  · have differs : (item.2.element.kind == kind) = false := beq_false_of_ne same
    rw [differs, Bool.and_false, Bool.false_and]

end Consistent
end Registry
end JspCompletion
