import JspCompletion.Proofs.Variables.Sweep

/-!
# Sweeps over whole runs

A scanner shares its registry with others, who may do anything with it between
two sweeps: they may also remove what the scanner registered.  Yet after each
sweep the registry is in line with the text.  What the scanner registered and is
still there is one variable for each name that the text binds and that nobody
else holds, typed by its last bean; nothing else has changed; and what was right
before is still the same entry.

This needs that the variables of others are static and older than the scanner's
first sweep, and that nothing belongs to what the scanner registered.
-/

namespace JspCompletion

open Registry Markup VariableScanner

/-- Something that happens to the registry. -/
inductive Turn
  | sweep (now : Time) (text : List Char) (span : Nat)
  /-- Others do something. -/
  | other (step : Step)

namespace Work

def after (work : Work) : Turn → Work
  | .sweep now text span => work.sweep now text span
  | .other step => { work with registry := work.registry.after step }

/-- The work after the turns of a run. -/
def run (work : Work) (turns : List Turn) : Work :=
  turns.foldl after work

/-- The scanner and the others keep apart in every state of a run. -/
def ApartAlong (start : Nat) (work : Work) : List Turn → Prop
  | [] => work.Apart start
  | turn :: rest => work.Apart start ∧ (work.after turn).ApartAlong start rest

instance decidableApartAlong (start : Nat) (work : Work) :
    (turns : List Turn) → Decidable (work.ApartAlong start turns)
  | [] => inferInstanceAs (Decidable (work.Apart start))
  | turn :: rest =>
      have := decidableApartAlong start (work.after turn) rest
      inferInstanceAs (Decidable (work.Apart start ∧ (work.after turn).ApartAlong start rest))

/-! ## One turn and many -/

section Runs

variable {start : Nat} {work : Work}

/-- Variables of others that are there after something else was done were there
before, since they are static and older. -/
theorem Faithful.taken_of_taken_after
    (faithful : work.Faithful start)
    {after : Registry}
    (keeps : Keeps work.registry after)
    (apart : Apart start { work with registry := after })
    {name : String}
    (taken : Taken { work with registry := after } name) :
    work.Taken name := by
  obtain ⟨id, notMade, var, found, named⟩ := taken
  obtain ⟨entry, entryFound, element⟩ := Option.map_eq_some_iff.mp found
  have member := mem_of_entry?_eq_some entryFound
  have ofKind : entry.element.kind = .var := by
    rw [element]
    rfl
  -- Older than the start, it cannot have come with what was done.
  have known : id.value < work.registry.nextId :=
    Nat.lt_of_lt_of_le (apart.early _ member notMade ofKind) faithful.start_le
  obtain ⟨old, oldMember, sameLife, sameIfSteady⟩ := keeps.known _ member known
  have noLife : old.lifetime = none := by
    have static : entry.lifetime = none := apart.static _ member notMade ofKind
    simpa [static] using sameLife
  have same := sameIfSteady (Entry.isSteady_of_static noLife)
  have oldElement : old.element = .var var := (congrArg Entry.element same).symm.trans element
  refine ⟨id, notMade, var, ?_, named⟩
  rw [(faithful.consistent.entry?_eq_some_iff id old).mpr oldMember, Option.map_some, oldElement]

/-- Whatever becomes of the registry, what holds of a scanner at work still holds
where known identities stand for what they stood for and all keep apart. -/
theorem Faithful.withRegistry
    (faithful : work.Faithful start)
    {after : Registry}
    (consistent : after.Consistent)
    (keeps : Keeps work.registry after)
    (apart : Apart start { work with registry := after }) :
    Faithful start { work with registry := after } := by
  have wasLive {id : EntryId} (made : id ∈ work.made) (live : id ∈ after.ids) :
      id ∈ work.registry.ids := by
    obtain ⟨item, member, rfl⟩ := List.mem_map.mp live
    obtain ⟨old, oldMember, -⟩ := keeps.known item member (faithful.made_lt _ made)
    exact List.mem_map.mpr ⟨_, oldMember, rfl⟩
  exact
    { consistent
      start_le := faithful.start_le.trans keeps.nextId_le
      made_lt := fun id made => Nat.lt_of_lt_of_le (faithful.made_lt id made) keeps.nextId_le
      owned_made := faithful.owned_made
      made_owned := fun id made live => faithful.made_owned id made (wasLive made live)
      names := faithful.names
      shown := by
        intro item owned entry found
        have known := faithful.made_lt _ (faithful.owned_made item owned)
        obtain ⟨old, oldMember, -, sameIfSteady⟩ :=
          keeps.known _ (mem_of_entry?_eq_some found) known
        have oldFound := (faithful.consistent.entry?_eq_some_iff _ old).mpr oldMember
        have isShown := faithful.shown item owned old oldFound
        exact isShown.congr (sameIfSteady isShown.steady)
      free := by
        intro item owned live taken
        have made := faithful.owned_made item owned
        exact faithful.free item owned (wasLive made live)
          (faithful.taken_of_taken_after keeps apart taken) }

/-- Whatever others do, what holds of a scanner at work still holds. -/
theorem Faithful.other
    (faithful : work.Faithful start)
    (step : Step)
    (apart : (work.after (.other step)).Apart start) :
    (work.after (.other step)).Faithful start :=
  faithful.withRegistry (faithful.consistent.evolves_after step).consistent
    (faithful.consistent.keeps_after step) apart

/-- When it last scanned makes no difference. -/
theorem Faithful.withLastScan
    (faithful : work.Faithful start)
    (time : Time) :
    Faithful start { work with scanner := { work.scanner with lastScan := some time } } :=
  { consistent := faithful.consistent
    start_le := faithful.start_le
    made_lt := faithful.made_lt
    owned_made := faithful.owned_made
    made_owned := faithful.made_owned
    names := faithful.names
    shown := faithful.shown
    free := faithful.free }

theorem Faithful.after
    (faithful : work.Faithful start)
    (apart : work.Apart start)
    (turn : Turn)
    (apartAfter : (work.after turn).Apart start) :
    (work.after turn).Faithful start := by
  cases turn with
  | sweep now text span => exact faithful.sweep apart now text span
  | other step => exact faithful.other step apartAfter

theorem ApartAlong.head
    {turns : List Turn}
    (apart : work.ApartAlong start turns) :
    work.Apart start := by
  cases turns with
  | nil => exact apart
  | cons turn rest => exact apart.1

theorem Faithful.run
    (faithful : work.Faithful start)
    (turns : List Turn)
    (apart : work.ApartAlong start turns) :
    (work.run turns).Faithful start ∧ (work.run turns).Apart start := by
  induction turns generalizing work with
  | nil => exact ⟨faithful, apart⟩
  | cons turn rest inductionHypothesis =>
      -- Steps of others need that all keep apart in the state they lead to.
      exact inductionHypothesis (faithful.after apart.1 turn apart.2.head) apart.2

/-- A new scanner has nothing to account for. -/
theorem faithful_of_consistent
    {registry : Registry}
    (consistent : registry.Consistent) :
    Faithful registry.nextId { registry } :=
  { consistent
    start_le := Nat.le_refl _
    made_lt := by simp
    owned_made := by simp
    made_owned := by simp
    names := List.Pairwise.nil
    shown := by simp
    free := by simp }

end Runs

/-- After every sweep of a run, on a registry with any history, what the scanner
did not register is as it was, and the registry is in line with the text.  A
variable that the scanner has noted and that is there is the variable of that
name and type, and stays the same entry where the text gives its name the same
type; an empty class is a class, not the lack of one.  Another sweep of the text
changes no identity, element or owner. -/
theorem sweep_brings_in_line
    (history : List Step)
    (turns : List Turn)
    (apart : ApartAlong (Registry.run {} history).nextId
      { registry := Registry.run {} history } turns)
    (now : Time)
    (text : List Char)
    (span : Nat) :
    let before := Work.run { registry := Registry.run {} history } turns
    let after := before.sweep now text span
    (∀ id ∉ after.made, after.registry.entry? id = before.registry.entry? id) ∧
      after.InLine text ∧
      (∀ id ∈ before.made, id ∈ before.registry.ids →
        ∃ item ∈ before.scanner.owned, item.id = id) ∧
      (∀ item ∈ before.scanner.owned, ∀ entry, before.registry.entry? item.id = some entry →
        Shows item entry ∧
          ((∃ binding ∈ bindings text, binding.name = item.name) →
            lastClass (bindings text) item.name = item.typeName →
            (after.registry.entry? item.id).map Entry.timeless = some entry.timeless)) ∧
      ∀ later laterSpan,
        (after.sweep later text laterSpan).registry.holdings = after.registry.holdings := by
  intro before after
  obtain ⟨faithful, apart⟩ := (faithful_of_consistent (consistent_run history)).run turns apart
  have complete := faithful.complete_sweep apart now text span
  have faithfulAfter := faithful.sweep apart now text span
  refine ⟨?_, faithfulAfter.inLine complete, faithful.made_owned, ?_, ?_⟩
  · intro id notMade
    exact faithful.entry?_sweep_of_not_made apart now text span notMade
  · intro item owned entry found
    refine ⟨faithful.shown item owned entry found, ?_⟩
    intro bound sameType
    have live := (mem_ids_iff_exists before.registry item.id).mpr ⟨entry, found⟩
    have listed := ((lists_desired text).mem_iff item.name item.typeName).mpr
      ⟨bound, sameType.symm⟩
    have isCurrent := (faithful.mem_current_iff apart.static now text item).mpr
      ⟨owned, live, listed⟩
    have same := faithful.entry?_sweep_of_current apart now span isCurrent
    rwa [found] at same
  · intro later laterSpan
    exact faithfulAfter.holdings_sweep_of_complete
      (faithful.static_sweep apart now text span) complete later laterSpan

/-- An implicit object. -/
def sampleHistory : List Step :=
  [⟨0, .add (.var { name := ⟨"page", by decide⟩, typeName := "", description := "" }) none none⟩]

/-- A bean. -/
def sampleText : List Char :=
  "<jsp:useBean id=\"x\" class=\"A\"/>".toList

/-- A sweep, after which others remove the bean. -/
def sampleTurns : List Turn :=
  [.sweep 0 sampleText 800, .other ⟨10, .remove ⟨1⟩⟩, .other ⟨900, .query { kind := some .var }⟩]

/-- The bean comes back under a new identity. -/
theorem sampleTurns_sweep_brings_in_line :
    let before := Work.run { registry := Registry.run {} sampleHistory } sampleTurns
    let after := before.sweep 1000 sampleText 800
    ApartAlong (Registry.run {} sampleHistory).nextId
        { registry := Registry.run {} sampleHistory } sampleTurns ∧
      before.registry.ids = [⟨0⟩] ∧ after.registry.ids = [⟨0⟩, ⟨2⟩] ∧
      after.InLine sampleText := by
  have apart : ApartAlong (Registry.run {} sampleHistory).nextId
      { registry := Registry.run {} sampleHistory } sampleTurns := by
    decide +kernel
  refine ⟨apart, by decide +kernel, by decide +kernel, ?_⟩
  exact (sweep_brings_in_line sampleHistory sampleTurns apart 1000 sampleText 800).2.1

end Work
end JspCompletion
