import JspCompletion.Proofs.Variables.Tended
import JspCompletion.Workspace

/-!
# How old document variables may be

A run mixes edits of the document, changes of the scan interval, the passing of
time and refreshing queries, in any order.  A scanner listens, and looks at the
document in a query unless its last scan is less than the interval ago.  The
interval that counts is the one at the time of the query, not the one at the
time of the scan.

The main result ties the scanner's entries to the document that was active when
it last scanned, and says how long ago that can be.  The lives of these entries
play no part: once a life has passed, the next reader keeps the entry.
-/

namespace JspCompletion

open Registry Markup VariableScanner

/-- Something that happens while a document is edited.  An absent document means
that none is open, and time never goes back. -/
inductive Interaction
  | edit (document : Option String)
  | setInterval (interval : Nat)
  | advance (span : Nat)
  | query (query : Query)

namespace Workspace

/-- The workspace after an interaction. -/
def interact (workspace : Workspace) : Interaction → Workspace
  | .edit document => { workspace with document }
  | .setInterval interval => { workspace with scanInterval := interval }
  | .advance span => { workspace with now := workspace.now + span }
  | .query query => (workspace.query query true).2

/-- The workspace after the interactions of a run, the latest first. -/
def through (start : Workspace) : List Interaction → Workspace
  | [] => start
  | interaction :: earlier => (start.through earlier).interact interaction

/-- The text that a scan looks at. -/
def activeText (workspace : Workspace) : List Char :=
  (workspace.document.getD "").toList

/-- A query would make a scanner look at the document. -/
def scans (workspace : Workspace) : Bool :=
  workspace.listeners.any fun
    | .documentScanner scanner => !scanner.isRecent workspace.now workspace.scanInterval
    | .hook _ _ _ => false

/-- The state in which the last scan of a run took place. -/
def lastScanned (start : Workspace) : List Interaction → Option Workspace
  | [] => none
  | .query _ :: earlier =>
      if (start.through earlier).scans then some (start.through earlier)
      else start.lastScanned earlier
  | _ :: earlier => start.lastScanned earlier

end Workspace

theorem sub_lt_of_elapsed_lt
    {earlier later : Time}
    {interval : Nat}
    (recent : elapsed earlier later < interval) :
    later - earlier < interval := by
  rw [elapsed, Int.toNat_lt'] at recent
  · exact recent
  · omega

/-- An empty text binds nothing. -/
theorem bindings_empty : bindings "".toList = [] := by
  decide +kernel

/-! ## One query -/

theorem VariableScanner.lastScan_sweep
    (scanner : VariableScanner)
    (now : Time)
    (text : List Char)
    (span : Nat)
    (registry : Registry) :
    (scanner.sweep now text span registry).1.lastScan = scanner.lastScan := by
  have filled (state : VariableScanner × Registry) (reserved : List String)
      (wanted : List (String × Option String)) :
      (wanted.foldl (addVariable now span reserved) state).1.lastScan = state.1.lastScan := by
    induction wanted generalizing state with
    | nil => rfl
    | cons first rest inductionHypothesis =>
        rw [List.foldl_cons, inductionHypothesis]
        rcases addVariable_cases now span reserved state first with same | ⟨var, registered⟩
        · rw [same]
        · rw [registered]
          rfl
  exact filled _ _ _

namespace Workspace

section Listening

variable {workspace : Workspace} {scanner : VariableScanner}

theorem scans_of_listening
    (listening : workspace.listeners = [.documentScanner scanner]) :
    workspace.scans = !scanner.isRecent workspace.now workspace.scanInterval := by
  simp [scans, listening]

/-- A scan sweeps the active text. -/
theorem broadcast_of_scans
    (listening : workspace.listeners = [.documentScanner scanner])
    (scansNow : workspace.scans = true) :
    let swept := { scanner with lastScan := some workspace.now }.sweep workspace.now
      workspace.activeText workspace.scanInterval workspace.registry
    workspace.broadcast =
      { workspace with registry := swept.2, listeners := [.documentScanner swept.1] } := by
  rw [scans_of_listening listening, Bool.not_eq_true'] at scansNow
  simp [broadcast, listening, callAll, call, onRefresh, scansNow, activeText]

/-- Without a scan nothing happens. -/
theorem broadcast_of_not_scans
    (listening : workspace.listeners = [.documentScanner scanner])
    (recent : workspace.scans = false) :
    workspace.broadcast = workspace := by
  rw [scans_of_listening listening, Bool.not_eq_false'] at recent
  cases workspace
  cases listening
  simp [broadcast, callAll, call, onRefresh, recent]

end Listening

/-! ## Runs -/

/-- What a scanner has done in a run: it knows when it last scanned, and has done
its work for the text that was active then. -/
structure Watched
    (start : Workspace)
    (interactions : List Interaction)
    (work : Work) : Prop where
  listening : (start.through interactions).listeners = [.documentScanner work.scanner]
  registry : (start.through interactions).registry = work.registry
  tended : work.Tended start.registry.nextId
  lastScan : work.scanner.lastScan = (start.lastScanned interactions).map (·.now)
  notAhead : ∀ last, start.lastScanned interactions = some last →
    last.now ≤ (start.through interactions).now
  complete : ∀ last, start.lastScanned interactions = some last → work.Complete last.activeText

namespace Watched

variable {start : Workspace} {interactions : List Interaction} {work : Work}

/-- A scan takes place if there was none yet, or if the last one is at least an
interval ago. -/
theorem scans_iff
    (watched : Watched start interactions work) :
    (start.through interactions).scans = true ↔
      start.lastScanned interactions = none ∨
        ∃ last, start.lastScanned interactions = some last ∧
          (start.through interactions).scanInterval ≤
            elapsed last.now (start.through interactions).now := by
  rw [scans_of_listening watched.listening, isRecent, watched.lastScan]
  cases start.lastScanned interactions with
  | none => simp
  | some last => simp

/-- The scanner's work once the listeners have been called. -/
theorem exists_broadcast
    (watched : Watched start interactions work)
    (query : Query) :
    let before := start.through interactions
    ∃ called : Work, before.broadcast.listeners = [.documentScanner called.scanner] ∧
      before.broadcast.registry = called.registry ∧
      before.broadcast.now = before.now ∧
      called.Tended start.registry.nextId ∧
      ∃ last, start.lastScanned (.query query :: interactions) = some last ∧
        called.scanner.lastScan = some last.now ∧ last.now ≤ before.now ∧
        called.Complete last.activeText := by
  intro before
  by_cases scansNow : before.scans = true
  · have tended := watched.tended.withLastScan before.now
    let called := Work.sweep
      { work with scanner := { work.scanner with lastScan := some before.now } } before.now
      before.activeText before.scanInterval
    have broadcast := broadcast_of_scans watched.listening scansNow
    rw [watched.registry] at broadcast
    refine ⟨called, ?_, ?_, ?_, tended.sweep .., before, ?_, ?_, Int.le_refl _, ?_⟩
    · rw [broadcast]
      rfl
    · rw [broadcast]
      rfl
    · rw [broadcast]
    · exact if_pos scansNow
    · exact lastScan_sweep ..
    · exact tended.faithful.complete_sweep tended.apart ..
  · have recent : before.scans = false := by simpa using scansNow
    have notScanning := mt watched.scans_iff.mpr scansNow
    rw [not_or] at notScanning
    obtain ⟨last, lastEq⟩ := Option.ne_none_iff_exists'.mp notScanning.1
    rw [broadcast_of_not_scans watched.listening recent]
    refine ⟨work, watched.listening, watched.registry, rfl, watched.tended, last, ?_, ?_,
      watched.notAhead last lastEq, watched.complete last lastEq⟩
    · exact (if_neg scansNow).trans lastEq
    · rw [watched.lastScan, lastEq]
      rfl

/-- A query keeps the scanner at its work. -/
theorem query
    (watched : Watched start interactions work)
    (query : Query) :
    ∃ later, Watched start (.query query :: interactions) later := by
  let before := start.through interactions
  obtain ⟨called, listening, registryEq, sameNow, tended, last, lastEq, lastScan, notAhead,
    complete⟩ := watched.exists_broadcast query
  refine ⟨{ called with registry := (called.registry.query before.now query).2 }, ?_⟩
  exact
    { listening
      registry := by
        change (before.broadcast.registry.query before.broadcast.now query).2 = _
        rw [registryEq, sameNow]
      tended := tended.query before.now query
      lastScan := by
        rw [lastEq]
        exact lastScan
      notAhead := by
        intro other otherEq
        rw [lastEq, Option.some.injEq] at otherEq
        subst otherEq
        change last.now ≤ before.broadcast.now
        rw [sameNow]
        exact notAhead
      complete := by
        intro other otherEq
        rw [lastEq, Option.some.injEq] at otherEq
        subst otherEq
        exact tended.complete_query complete before.now query }

theorem interact
    (watched : Watched start interactions work)
    (interaction : Interaction) :
    ∃ later, Watched start (interaction :: interactions) later := by
  cases interaction with
  | query query => exact watched.query query
  | edit document =>
      exact ⟨work, watched.listening, watched.registry, watched.tended, watched.lastScan,
        watched.notAhead, watched.complete⟩
  | setInterval interval =>
      exact ⟨work, watched.listening, watched.registry, watched.tended, watched.lastScan,
        watched.notAhead, watched.complete⟩
  | advance span =>
      refine ⟨work, watched.listening, watched.registry, watched.tended, watched.lastScan, ?_,
        watched.complete⟩
      intro last lastEq
      refine Int.le_trans (watched.notAhead last lastEq) ?_
      exact Int.le_add_of_nonneg_right (Int.natCast_nonneg span)

end Watched

/-- A scanner that is new to a prepared registry is at its work throughout a
run. -/
theorem exists_watched
    {start : Workspace}
    (consistent : start.registry.Consistent)
    (prepared : start.registry.Prepared start.registry.nextId)
    (listening : start.listeners = [.documentScanner {}])
    (interactions : List Interaction) :
    ∃ work, Watched start interactions work := by
  induction interactions with
  | nil =>
      refine ⟨{ registry := start.registry }, listening, rfl, ?_, rfl, nofun, nofun⟩
      refine ⟨Work.faithful_of_consistent consistent, prepared, by simp, ?_⟩
      intro id live above
      exact absurd (consistent.value_lt_nextId live) (Nat.not_lt_of_le above)
  | cons interaction earlier inductionHypothesis =>
      obtain ⟨work, watched⟩ := inductionHypothesis
      exact watched.interact interaction

/-- What came into the registry from the start on is what the scanner has noted:
one variable for each name that the text binds and no built-in variable has. -/
theorem Watched.exactly_bound
    {start : Workspace}
    {interactions : List Interaction}
    {work : Work}
    (watched : Watched start interactions work)
    {moment : Workspace}
    (scanned : start.lastScanned interactions = some moment) :
    let registry := (start.through interactions).registry
    (∀ id ∈ registry.ids,
      start.registry.nextId ≤ id.value ↔ ∃ item ∈ work.scanner.owned, item.id = id) ∧
    (∀ id entry, registry.entry? id = some entry → start.registry.nextId ≤ id.value →
      ∃ var, entry.element = .var var ∧
        (∃ binding ∈ bindings moment.activeText, binding.name = var.name.text) ∧
        var.name.text ∉ Builtin.implicitObjectNames ∧
        IsVariable (var.name.text, lastClass (bindings moment.activeText) var.name.text) var) ∧
    ∀ binding ∈ bindings moment.activeText, binding.name ∉ Builtin.implicitObjectNames →
      ∃! id, start.registry.nextId ≤ id.value ∧ registry.HasVariable id binding.name := by
  intro registry
  have tended := watched.tended
  have inLine := tended.faithful.inLine (watched.complete moment scanned)
  have registryEq : registry = work.registry := watched.registry
  rw [registryEq]
  refine ⟨?_, ?_, ?_⟩
  · intro id live
    constructor
    · intro above
      exact tended.faithful.made_owned id (tended.made_all id live above) live
    · rintro ⟨item, owned, rfl⟩
      exact tended.made_ge item.id (tended.faithful.owned_made item owned)
  · intro id entry found above
    have live := (mem_ids_iff_exists work.registry id).mpr ⟨entry, found⟩
    obtain ⟨var, element, ⟨bound, free⟩, isVariable⟩ :=
      inLine.wanted id (tended.made_all id live above) entry found
    rw [tended.taken_iff] at free
    exact ⟨var, element, bound, free, isVariable⟩
  · intro binding bound notBuiltin
    have wants : work.Wants moment.activeText binding.name :=
      ⟨⟨binding, bound, rfl⟩, (tended.taken_iff binding.name).not.mpr notBuiltin⟩
    obtain ⟨id, ⟨made, has⟩, unique⟩ := inLine.once binding.name wants
    refine ⟨id, ⟨tended.made_ge id made, has⟩, ?_⟩
    rintro other ⟨above, otherHas⟩
    exact unique other ⟨tended.made_all other otherHas.mem_ids above, otherHas⟩

/-- In every run of edits, interval changes, passing time and refreshing queries,
on a registry in which nothing but the built-in variables ever was a variable
before a scanner came to listen:  A query makes the scanner sweep the active text
exactly if there was no scan yet or the interval in force has passed since the
last one, and otherwise does nothing before it is answered.  After every query,
what has come into the registry is exactly one variable for each name that the
text active at the last scan binds and that no built-in variable has; and that
scan was part of the query, or is less than the interval in force ago. -/
theorem variables_staleness_bounded
    (history : List Step)
    (known : OwnersKnown {} history)
    (noVariables : ∀ item ∈ (Registry.run {} history).entries, item.2.NeverVariable)
    (time : Time)
    (count : Nat)
    (start : Workspace)
    (registered : Builtin.register (Registry.run {} history) time = .ok (count, start.registry))
    (listening : start.listeners = [.documentScanner {}])
    (interactions : List Interaction)
    (query : Query) :
    let before := start.through interactions
    let after := (before.query query true).2
    (before.scans = true ↔
      start.lastScanned interactions = none ∨
        ∃ last, start.lastScanned interactions = some last ∧
          before.scanInterval ≤ elapsed last.now before.now) ∧
    (∃ scanner : VariableScanner, before.listeners = [.documentScanner scanner] ∧
      (before.scans = true →
        let swept := { scanner with lastScan := some before.now }.sweep before.now
          before.activeText before.scanInterval before.registry
        before.broadcast =
          { before with registry := swept.2, listeners := [.documentScanner swept.1] }) ∧
      (before.scans = false → before.broadcast = before)) ∧
    ∃ moment, start.lastScanned (.query query :: interactions) = some moment ∧
      moment.now ≤ before.now ∧
      (moment.now = before.now ∨ before.now - moment.now < before.scanInterval) ∧
      (∃ scanner : VariableScanner, after.listeners = [.documentScanner scanner] ∧
        ∀ id ∈ after.registry.ids,
          start.registry.nextId ≤ id.value ↔ ∃ item ∈ scanner.owned, item.id = id) ∧
      (∀ id entry, after.registry.entry? id = some entry → start.registry.nextId ≤ id.value →
        ∃ var, entry.element = .var var ∧
          (∃ binding ∈ bindings moment.activeText, binding.name = var.name.text) ∧
          var.name.text ∉ Builtin.implicitObjectNames ∧
          IsVariable (var.name.text, lastClass (bindings moment.activeText) var.name.text) var) ∧
      (∀ binding ∈ bindings moment.activeText, binding.name ∉ Builtin.implicitObjectNames →
        ∃! id, start.registry.nextId ≤ id.value ∧ after.registry.HasVariable id binding.name) ∧
      (moment.document = none → ∀ id ∈ after.registry.ids, id.value < start.registry.nextId) := by
  intro before after
  have older := ownersOlder_empty.run consistent_empty history known
  obtain ⟨consistent, prepared⟩ :=
    prepared_register (consistent_run history) older noVariables registered
  obtain ⟨work, watched⟩ := exists_watched consistent prepared listening interactions
  obtain ⟨later, watchedLater⟩ :=
    exists_watched consistent prepared listening (.query query :: interactions)
  obtain ⟨-, -, -, sameNow, -, moment, scanned, -, notAhead, -⟩ := watched.exists_broadcast query
  obtain ⟨noted, wanted, once⟩ := watchedLater.exactly_bound scanned
  refine ⟨watched.scans_iff, ⟨work.scanner, watched.listening, ?_, ?_⟩, moment, scanned, notAhead,
    ?_, ⟨later.scanner, watchedLater.listening, noted⟩, wanted, once, ?_⟩
  · exact broadcast_of_scans watched.listening
  · exact broadcast_of_not_scans watched.listening
  · by_cases scansNow : before.scans = true
    · left
      rw [lastScanned, if_pos scansNow, Option.some.injEq] at scanned
      rw [← scanned]
    · right
      rw [lastScanned, if_neg scansNow] at scanned
      have notElapsed := mt (fun elapsedNow => watched.scans_iff.mpr
        (Or.inr ⟨moment, scanned, elapsedNow⟩)) scansNow
      exact sub_lt_of_elapsed_lt (Nat.lt_of_not_le notElapsed)
  · intro noDocument id live
    by_contra above
    obtain ⟨entry, found⟩ := (mem_ids_iff_exists after.registry id).mp live
    obtain ⟨-, -, ⟨binding, bound, -⟩, -⟩ := wanted id entry found (Nat.le_of_not_lt above)
    rw [activeText, noDocument, Option.getD_none, bindings_empty] at bound
    cases bound

/-- A workspace with the built-in descriptors and a scanner. -/
def sampleEditing : Workspace :=
  { registry := ((Builtin.register {} 0).toOption.map (·.2)).getD {}
    listeners := [.documentScanner {}] }

/-- A bean is scanned, and replaced by another one less than an interval ago. -/
def sampleInteractions : List Interaction :=
  [ .advance 300,
    .edit (some "<jsp:useBean id=\"y\" class=\"B\"/>"),
    .advance 100,
    .query { kind := some .var },
    .edit (some "<jsp:useBean id=\"x\" class=\"A\"/>") ]

/-- The next query does not scan, and finds the bean that was scanned. -/
theorem sampleInteractions_staleness_bounded :
    let before := sampleEditing.through sampleInteractions
    let after := (before.query {} true).2
    (∃ count, Builtin.register (Registry.run {} []) 0 = .ok (count, sampleEditing.registry)) ∧
    before.scans = false ∧
    (after.registry.entries.filter (sampleEditing.registry.nextId ≤ ·.1.value)).map
      (·.2.element.name.text) = ["x"] ∧
    ∃ moment, sampleEditing.lastScanned (.query {} :: sampleInteractions) = some moment ∧
      (moment.now = before.now ∨ before.now - moment.now < before.scanInterval) := by
  intro before after
  have registered :
      ∃ count, Builtin.register (Registry.run {} []) 0 = .ok (count, sampleEditing.registry) := by
    have succeeds : (Builtin.register {} 0).toOption.isSome = true := by decide +kernel
    cases made : Builtin.register {} 0 with
    | error failure => simp [made, Except.toOption] at succeeds
    | ok result => exact ⟨result.1, by simp [sampleEditing, made, Except.toOption]⟩
  refine ⟨registered, by decide +kernel, by decide +kernel, ?_⟩
  obtain ⟨count, isRegistered⟩ := registered
  obtain ⟨-, -, moment, scanned, -, recent, -⟩ :=
    variables_staleness_bounded [] trivial (by simp) 0 count sampleEditing isRegistered rfl
      sampleInteractions {}
  exact ⟨moment, scanned, recent⟩

end Workspace
end JspCompletion
