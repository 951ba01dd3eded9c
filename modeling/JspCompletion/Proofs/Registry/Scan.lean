import JspCompletion.Proofs.Registry.Answer

/-!
# Queries by kind and scans

A query by kind walks the index of that kind, a query without a kind walks all
entries.  Both change the registry as they go: an entry whose life has passed may
get another kind, or go and take entries of any kind along.  Yet as long as only
entries of the kind are due, a scan reads the others for nothing.  Hence the
query by kind finds what the scan finds of that kind, asks the same plans and
leaves the same registry.
-/

namespace JspCompletion
namespace Registry

/-- A query by kind selects what the same query without a kind selects of that
kind. -/
theorem toList_selected?_ofKind
    (registry : Registry)
    (kind : Kind)
    (rules : List FilterRule)
    (id : EntryId) :
    (registry.selected? { kind := some kind, rules } id).toList =
      (registry.selected? { rules } id).toList.filter (·.2.kind == kind) := by
  unfold selected?
  cases registry.entry? id with
  | none => rfl
  | some entry =>
      have selects : ({ kind := some kind, rules } : Query).selects entry.element =
          ((entry.element.kind == kind) && ({ rules } : Query).selects entry.element) := by
        simp [Query.selects, Bool.beq_comm]
      rw [Option.map_some, Option.bind_some, Option.bind_some, selects]
      by_cases ofKind : entry.element.kind = kind <;>
        by_cases passes : ({ rules } : Query).selects entry.element = true <;>
        simp [ofKind, passes]

/-- Entries that are not due and of another kind may as well be left out when
entries of a kind are read: they are read for nothing, whatever the others do. -/
theorem Consistent.readAll_filter
    {registry : Registry}
    (consistent : registry.Consistent)
    (now : Time)
    (kind : Kind)
    (rules : List FilterRule)
    (isRead : EntryId → Bool)
    (ids : List EntryId)
    (nodup : ids.Nodup)
    (idle : ∀ id ∈ ids, isRead id = false → ∀ entry, registry.entry? id = some entry →
      isExpired entry now = false ∧ entry.element.kind ≠ kind) :
    registry.readAll now { kind := some kind, rules } (ids.filter isRead) =
      ((registry.readAll now { rules } ids).1.filter (·.2.kind == kind),
        (registry.readAll now { rules } ids).2) := by
  induction ids generalizing registry with
  | nil => rfl
  | cons id rest inductionHypothesis =>
      obtain ⟨new, nodupRest⟩ := List.nodup_cons.mp nodup
      have read := consistent.reread_get now id
      have readRest := inductionHypothesis read.consistent nodupRest (by
        intro other listed notRead entry found
        -- Reading the first entry leaves another as it was, if it leaves it at all.
        have notFirst : other ∉ [id] := by
          rw [List.mem_singleton]
          rintro rfl
          exact new listed
        exact idle other (List.mem_cons_of_mem _ listed) notRead entry
          (read.entry?_before notFirst found))
      have scanned := consistent.readAll_cons_fst now { rules } id rest
      have left := registry.readAll_cons_registry now { rules } id rest
      rw [scanned, left, List.filter_append, ← toList_selected?_ofKind]
      cases reads : isRead id with
      | true =>
          rw [List.filter_cons_of_pos reads]
          refine Prod.ext ?_ ?_
          · rw [consistent.readAll_cons_fst, readRest]
          · rw [readAll_cons_registry, readRest]
      | false =>
          have idleHere := idle id List.mem_cons_self reads
          have unchanged := registry.get_snd_of_fresh now id fun entry found =>
            (idleHere entry found).1
          have notSelected : registry.selected? { kind := some kind, rules } id = none := by
            rw [Option.eq_none_iff_forall_ne_some]
            intro answer selected
            obtain ⟨-, entry, found, same, selects⟩ := (selected?_eq_some_iff ..).mp selected
            have ofKind := ((Query.selects_iff ..).mp selects).1 kind rfl
            exact (idleHere entry found).2 (same ▸ ofKind)
          rw [unchanged] at readRest ⊢
          rw [List.filter_cons_of_neg (by simp [reads]), readRest, notSelected]
          rfl

/-- In every state of every run, when all entries whose lives have passed have one
kind: a query for that kind, by its index, gives what a scan of all entries with
the same rules gives, less the answers of other kinds, and leaves the same
registry, with the same questions put to the same plans. -/
theorem query_by_kind_agrees_with_scan
    (steps : List Step)
    (now : Time)
    (kind : Kind)
    (rules : List FilterRule)
    (due : ∀ id entry, Registry.entry? (run {} steps) id = some entry →
      isExpired entry now = true → entry.element.kind = kind) :
    let registry := run {} steps
    let byKind := registry.query now { kind := some kind, rules }
    let scan := registry.query now { kind := none, rules }
    byKind.1 = scan.1.filter (·.2.kind == kind) ∧ byKind.2 = scan.2 ∧
      ∀ id, byKind.2.callCount id = scan.2.callCount id := by
  intro registry byKind scan
  have consistent : registry.Consistent := consistent_run steps
  let isRead : EntryId → Bool := fun id =>
    (registry.entry? id).any fun entry => entry.element.kind == kind
  have candidates : registry.candidates { kind := some kind, rules } =
      (registry.candidates { kind := none, rules }).filter isRead := by
    rw [consistent.candidates_eq_filter]
    change _ = (registry.entries.map (·.1)).filter isRead
    rw [List.filter_map]
    congr 1
    apply List.filter_congr
    intro item member
    have found := (consistent.entry?_eq_some_iff item.1 item.2).mpr member
    simp [isRead, found, Bool.beq_comm]
  have agrees : byKind = (scan.1.filter (·.2.kind == kind), scan.2) := by
    change registry.readAll now _ (registry.candidates _) = _
    rw [candidates]
    refine consistent.readAll_filter now kind rules isRead _ (consistent.candidates_nodup _) ?_
    intro id _ notRead entry found
    have otherKind : entry.element.kind ≠ kind := by
      simpa [isRead, found] using notRead
    refine ⟨?_, otherKind⟩
    rw [Bool.eq_false_iff]
    exact fun expired => otherKind (due id entry found expired)
  rw [agrees]
  exact ⟨rfl, rfl, fun _ => rfl⟩

/-- A variable that removes itself, a keyword that belongs to it, a variable that
turns into a keyword, and one of either kind that stays. -/
def sampleKinds : List Step :=
  let name : Name := ⟨"count", by decide⟩
  let plain : Descriptor := .var { name, typeName := "", description := "" }
  let keyword : Descriptor := .keyword { name, fullName := "", description := "" }
  [ ⟨0, .add plain none (some { span := 5, plan := [.remove] })⟩,
    ⟨0, .add keyword (some ⟨0⟩) none⟩,
    ⟨0, .add plain none (some { span := 5, plan := [.replace keyword] })⟩,
    ⟨0, .add keyword none none⟩,
    ⟨0, .add plain none none⟩ ]

/-- Only variables are due, so a query for variables leaves what a scan leaves,
although the scan comes to the keywords as well. -/
theorem sampleKinds_query_agrees :
    let registry := run {} sampleKinds
    let byKind := registry.query 9 { kind := some .var }
    let scan := registry.query 9 {}
    (∀ id entry, registry.entry? id = some entry → isExpired entry 9 = true →
      entry.element.kind = .var) ∧
    scan.1.map (·.1) = [⟨2⟩, ⟨3⟩, ⟨4⟩] ∧
    byKind.1 = scan.1.filter (·.2.kind == .var) ∧ byKind.2 = scan.2 := by
  intro registry byKind scan
  have dueEntries : ∀ item ∈ registry.entries, isExpired item.2 9 = true →
      item.2.element.kind = .var := by
    decide
  have due (id : EntryId) (entry : Entry) (found : registry.entry? id = some entry) :=
    dueEntries (id, entry) (mem_of_entry?_eq_some found)
  obtain ⟨answers, left, -⟩ := query_by_kind_agrees_with_scan sampleKinds 9 .var [] due
  exact ⟨due, by decide +kernel, answers, left⟩

end Registry
end JspCompletion
