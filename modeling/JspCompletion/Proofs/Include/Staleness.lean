import JspCompletion.Proofs.Include.Crawl
import JspCompletion.Workspace

/-!
# How old a kept scan may be

A run mixes writes, deletions, the passing of time and questions for the
libraries of a text, which may differ from the file at its path.  Every write
leaves the clock reading on the file.  A run is orderly when no file is written
at the reading at which it was last scanned: such a write could not be told
from one before the scan.

The main result bounds what kept scans may change.  Every scan that is used was
right at some moment of the last `recheckAfter` milliseconds, so that kept
scans change nothing when no file changed in that time.  A deletion at the edge
of that time still counts as a change, because a kept scan of that age is used
without a look at the file.
-/

namespace JspCompletion

/-- Something that happens to a workspace: a file is written or deleted, time
passes, the registry changes in any way, or the libraries of a text are asked
for. -/
inductive Event
  | write (path : Path) (content : Option String)
  | delete (path : Path)
  | advance (span : Nat)
  | register (registry : Registry)
  | ask (text : List Char) (file : Option Path)

namespace Workspace

/-- The workspace after an event. -/
def after (workspace : Workspace) : Event → Workspace
  | .write path content =>
      { workspace with
        files := workspace.files.write path { content, modified := workspace.now } }
  | .delete path => { workspace with files := workspace.files.remove path }
  | .advance span => { workspace with now := workspace.now + span }
  | .register registry => { workspace with registry }
  | .ask text file => (workspace.declaredLibraries text file).2

/-- The workspace after the events of a run, the latest first. -/
def run (start : Workspace) : List Event → Workspace
  | [] => start
  | event :: earlier => (start.run earlier).after event

/-- A file is written only after the reading at which it was last scanned. -/
def Allows (workspace : Workspace) (event : Event) : Prop :=
  ∀ path content, event = .write path content →
    ∀ kept, workspace.resolver.cached? path = some kept → kept.time < workspace.now

/-- Every event of a run is allowed where it happens. -/
def Orderly (start : Workspace) : List Event → Prop
  | [] => True
  | event :: earlier => start.Orderly earlier ∧ (start.run earlier).Allows event

/-- The clock readings at which files were written or deleted. -/
def changes (start : Workspace) : List Event → List Time
  | [] => []
  | .write _ _ :: earlier | .delete _ :: earlier =>
      (start.run earlier).now :: start.changes earlier
  | _ :: earlier => start.changes earlier

end Workspace

/-! ## Writing and deleting in memory -/

namespace FileTree

variable {files : FileTree}

theorem find?_write
    (inMemory : files.access = .exact)
    (path : Path)
    (file : File)
    (other : Path) :
    (files.write path file).find? other =
      if other = path then some file else files.find? other := by
  simp only [find?, write, addDirectories, inMemory, file?, Include.find?_filter_ne_append]
  split <;> rfl

theorem find?_remove
    (inMemory : files.access = .exact)
    (path other : Path) :
    (files.remove path).find? other = if other = path then none else files.find? other := by
  simp only [find?, remove, inMemory, file?, Include.find?_filter_ne]
  split <;> rfl

/-- What is found under a path says what its file declares and when it was
written. -/
theorem scan?_congr
    {others : FileTree}
    {path : Path}
    (same : others.find? path = files.find? path) :
    others.scan? path = files.scan? path ∧ others.modified? path = files.modified? path := by
  simp [scan?, read?, modified?, same]

end FileTree

namespace Workspace

open Include

variable {start : Workspace} {events : List Event}

/-! ## What is known about a kept scan -/

/-- A kept scan was taken in the run, and either it still is the scan of the
file, or the file was changed since and does not look unwritten. -/
structure Justified
    (start : Workspace)
    (events : List Event)
    (path : Path)
    (kept : CachedScan) : Prop where
  /-- It was taken when the file had this scan. -/
  taken : ∃ earlier, earlier <:+ events ∧ (start.run earlier).now = kept.time ∧
    (start.run earlier).files.scan? path = some kept.scan
  /-- It was not taken later than now. -/
  time_le : kept.time ≤ (start.run events).now
  /-- It is right, or else there was a change that can be seen. -/
  current : (start.run events).files.scan? path = some kept.scan ∨
    (∀ modified, (start.run events).files.modified? path = some modified →
      kept.time < modified) ∧
    ∃ reading ∈ start.changes events, kept.time ≤ reading

/-- All kept scans are justified. -/
def Justifies (start : Workspace) (events : List Event) (resolver : Resolver) : Prop :=
  ∀ path kept, resolver.cached? path = some kept → start.Justified events path kept

/-- An event that does not touch the file leaves a kept scan of it
justified. -/
theorem Justified.cons
    {path : Path}
    {kept : CachedScan}
    {event : Event}
    (justified : start.Justified events path kept)
    (clock : (start.run events).now ≤ ((start.run events).after event).now)
    (sameFile : ((start.run events).after event).files.find? path =
      (start.run events).files.find? path)
    (sameChanges : start.changes events ⊆ start.changes (event :: events)) :
    start.Justified (event :: events) path kept := by
  obtain ⟨earlier, suffix, takenAt, wasRight⟩ := justified.taken
  obtain ⟨sameScan, sameModified⟩ := FileTree.scan?_congr sameFile
  refine
    { taken := ⟨earlier, suffix.trans (List.suffix_cons event events), takenAt, wasRight⟩
      time_le := Int.le_trans justified.time_le clock
      current := ?_ }
  rw [run, sameScan, sameModified]
  rcases justified.current with right | ⟨seen, reading, changed, late⟩
  · exact Or.inl right
  · exact Or.inr ⟨seen, reading, sameChanges changed, late⟩

/-- A change of the file leaves a kept scan justified if the change can be
seen. -/
theorem Justified.change
    {path : Path}
    {kept : CachedScan}
    {event : Event}
    (justified : start.Justified events path kept)
    (clock : (start.run events).now = ((start.run events).after event).now)
    (seen : ∀ modified, ((start.run events).after event).files.modified? path = some modified →
      kept.time < modified)
    (noted : (start.run events).now ∈ start.changes (event :: events)) :
    start.Justified (event :: events) path kept := by
  obtain ⟨earlier, suffix, takenAt, wasRight⟩ := justified.taken
  exact
    { taken := ⟨earlier, suffix.trans (List.suffix_cons event events), takenAt, wasRight⟩
      time_le := by
        rw [run, ← clock]
        exact justified.time_le
      current := Or.inr ⟨seen, _, noted, justified.time_le⟩ }

/-- A kept scan stays justified when a file is written after the scan. -/
theorem Justified.write
    {path : Path}
    {kept : CachedScan}
    (justified : start.Justified events path kept)
    (inMemory : (start.run events).files.access = .exact)
    (written : Path)
    (content : Option String)
    (later : path = written → kept.time < (start.run events).now) :
    start.Justified (.write written content :: events) path kept := by
  by_cases same : path = written
  · refine justified.change rfl ?_ List.mem_cons_self
    intro modified modifiedEq
    simp only [after, FileTree.modified?, FileTree.find?_write inMemory, same, if_true,
      Option.map_some, Option.some.injEq] at modifiedEq
    rw [← modifiedEq]
    exact later same
  · refine justified.cons (Int.le_refl _) ?_ (List.subset_cons_self _ _)
    simp only [after, FileTree.find?_write inMemory, same, if_false]

/-- A kept scan stays justified when a file is deleted. -/
theorem Justified.delete
    {path : Path}
    {kept : CachedScan}
    (justified : start.Justified events path kept)
    (inMemory : (start.run events).files.access = .exact)
    (deleted : Path) :
    start.Justified (.delete deleted :: events) path kept := by
  by_cases same : path = deleted
  · refine justified.change rfl ?_ List.mem_cons_self
    intro modified modifiedEq
    simp [after, FileTree.modified?, FileTree.find?_remove inMemory, same] at modifiedEq
  · refine justified.cons (Int.le_refl _) ?_ (List.subset_cons_self _ _)
    simp only [after, FileTree.find?_remove inMemory, same, if_false]

/-! ## Visits -/

/-- A visit keeps all scans justified. -/
theorem Justifies.visit
    {resolver : Resolver}
    (justifies : start.Justifies events resolver)
    (path : Path) :
    start.Justifies events
      (resolver.visit (start.run events).files (start.run events).now path).2 := by
  rcases resolver.visit_cases (start.run events).files (start.run events).now path with
    ⟨kept, _, visitEq⟩ | ⟨_, visitEq⟩ | visitEq
  · rw [visitEq]
    exact justifies
  · rw [visitEq]
    exact justifies
  · rw [visitEq]
    intro other kept cachedEq
    rcases Resolver.cached?_readScan_cases cachedEq with known | ⟨rfl, takenNow, right⟩
    · exact justifies other kept known
    · exact
        { taken := ⟨events, List.suffix_refl events, takenNow.symm, right⟩
          time_le := Int.le_of_eq takenNow
          current := Or.inl right }

/-- The scan was that of the file at some moment between a reading and now. -/
def RightSince
    (start : Workspace)
    (events : List Event)
    (since : Time)
    (path : Path)
    (scan : Markup.FileScan) : Prop :=
  ∃ earlier, earlier <:+ events ∧
    since ≤ (start.run earlier).now ∧ (start.run earlier).now ≤ (start.run events).now ∧
    ∃ content, (start.run earlier).files.read? path = some content ∧
      scan = Markup.scan content.toList

/-- A moment of the run at which the file had the scan. -/
theorem RightSince.of_scan?_eq_some
    {since : Time}
    {path : Path}
    {scan : Markup.FileScan}
    {earlier : List Event}
    (suffix : earlier <:+ events)
    (since_le : since ≤ (start.run earlier).now)
    (le_now : (start.run earlier).now ≤ (start.run events).now)
    (right : (start.run earlier).files.scan? path = some scan) :
    start.RightSince events since path scan := by
  rw [FileTree.scan?, Option.map_eq_some_iff] at right
  obtain ⟨content, readEq, rfl⟩ := right
  exact ⟨earlier, suffix, since_le, le_now, content, readEq, rfl⟩

/-- A visit gives a scan that was right within the time after which scans are
checked. -/
theorem Justifies.rightSince_visit
    {resolver : Resolver}
    (justifies : start.Justifies events resolver)
    {path : Path}
    {scan : Markup.FileScan}
    (visitEq : (resolver.visit (start.run events).files (start.run events).now path).1 =
      some scan) :
    start.RightSince events ((start.run events).now - resolver.recheckAfter) path scan := by
  have rightNow (right : (start.run events).files.scan? path = some scan) :
      start.RightSince events ((start.run events).now - resolver.recheckAfter) path scan :=
    RightSince.of_scan?_eq_some (List.suffix_refl events)
      (Int.sub_le_self _ (Int.natCast_nonneg _)) (Int.le_refl _) right
  rcases resolver.visit_cases (start.run events).files (start.run events).now path with
    ⟨kept, ⟨cachedEq, why⟩, isKept⟩ | ⟨_, isGone⟩ | isRead
  · rw [isKept] at visitEq
    cases visitEq
    have justified := justifies path kept cachedEq
    rcases why with young | ⟨modified, modifiedEq, unwritten⟩
    · obtain ⟨earlier, suffix, takenAt, wasRight⟩ := justified.taken
      have recent := Resolver.sub_recheckAfter_le_time young
      rw [← takenAt] at recent
      refine RightSince.of_scan?_eq_some suffix recent ?_ wasRight
      rw [takenAt]
      exact justified.time_le
    · rcases justified.current with right | ⟨seen, _⟩
      · exact rightNow right
      · exact absurd (seen modified modifiedEq) (Int.not_lt.mpr unwritten)
  · rw [isGone] at visitEq
    cases visitEq
  · rw [isRead, Resolver.readScan_fst] at visitEq
    exact rightNow visitEq

/-- Following includes keeps all scans justified, and uses only scans that were
right within the time after which scans are checked. -/
theorem Justifies.includedFiles
    {resolver : Resolver}
    (justifies : start.Justifies events resolver)
    (includes : List String)
    (file : Option Path) :
    let workspace := start.run events
    let found := includedFiles workspace.files workspace.now includes file resolver
    start.Justifies events found.2 ∧
      ∀ item ∈ found.1,
        start.RightSince events (workspace.now - resolver.recheckAfter) item.path item.scan := by
  intro workspace found
  cases file with
  | none => exact ⟨justifies, by simp [found, Include.includedFiles]⟩
  | some page =>
      have crawls := crawls_crawl workspace.files workspace.now [page]
        (resolver.available workspace.files) page includes resolver
      have invariant := crawls.invariant
        (fun current => start.Justifies events current ∧
          current.recheckAfter = resolver.recheckAfter)
        (start.RightSince events (workspace.now - resolver.recheckAfter))
      have followed := invariant ?_ ?_ ⟨justifies, rfl⟩
      · exact ⟨followed.1.1, followed.2⟩
      · intro current path ⟨currentJustifies, same⟩
        refine ⟨currentJustifies.visit path, ?_⟩
        rw [Resolver.recheckAfter_visit]
        exact same
      · intro current path scan ⟨currentJustifies, same⟩ visitEq
        rw [← same]
        exact currentJustifies.rightSince_visit visitEq

/-! ## Runs -/

theorem inMemory_run
    (inMemory : start.files.access = .exact)
    (events : List Event) :
    (start.run events).files.access = .exact := by
  induction events with
  | nil => exact inMemory
  | cons event earlier inductionHypothesis =>
      cases event <;> exact inductionHypothesis

/-- Asking for libraries leaves the resolver that following the includes
leaves. -/
theorem resolver_declaredLibraries
    (workspace : Workspace)
    (text : List Char)
    (file : Option Path) :
    (workspace.declaredLibraries text file).2.resolver =
      (Include.includedFiles workspace.files workspace.now (Markup.scan text).includes file
        workspace.resolver).2 := by
  change (Include.declaredLibraries workspace.files workspace.now text file workspace.resolver
    workspace.registry).2.1 = (declarations workspace.files workspace.now text file
      workspace.resolver).2
  rw [Include.declaredLibraries]
  rcases declarations workspace.files workspace.now text file workspace.resolver with
    ⟨visible, followed⟩
  cases visible <;> rfl

/-- The time after which scans are checked stays the same. -/
theorem recheckAfter_run
    (start : Workspace)
    (events : List Event) :
    (start.run events).resolver.recheckAfter = start.resolver.recheckAfter := by
  induction events with
  | nil => rfl
  | cons event earlier inductionHypothesis =>
      cases event with
      | ask text file =>
          rw [run, after, resolver_declaredLibraries, recheckAfter_includedFiles]
          exact inductionHypothesis
      | _ => exact inductionHypothesis

/-- In an orderly run all kept scans are justified. -/
theorem justifies_run
    (inMemory : start.files.access = .exact)
    (nothingKept : start.resolver.cache = [])
    (orderly : start.Orderly events) :
    start.Justifies events (start.run events).resolver := by
  induction events with
  | nil =>
      intro path kept cachedEq
      simp [run, Resolver.cached?, nothingKept] at cachedEq
  | cons event earlier inductionHypothesis =>
      obtain ⟨orderlyBefore, allowed⟩ := orderly
      have before := inductionHypothesis orderlyBefore
      have inMemoryBefore := inMemory_run inMemory earlier
      cases event with
      | write written content =>
          intro path kept cachedEq
          refine (before path kept cachedEq).write inMemoryBefore written content ?_
          rintro rfl
          exact allowed path content rfl kept cachedEq
      | delete deleted =>
          intro path kept cachedEq
          exact (before path kept cachedEq).delete inMemoryBefore deleted
      | advance span =>
          intro path kept cachedEq
          refine (before path kept cachedEq).cons ?_ rfl (List.Subset.refl _)
          exact Int.le_add_of_nonneg_right (Int.natCast_nonneg span)
      | register registry =>
          intro path kept cachedEq
          exact (before path kept cachedEq).cons (Int.le_refl _) rfl (List.Subset.refl _)
      | ask text file =>
          intro path kept cachedEq
          rw [run, after, resolver_declaredLibraries] at cachedEq
          have visited := (before.includedFiles (Markup.scan text).includes file).1
          exact (visited path kept cachedEq).cons (Int.le_refl _) rfl (List.Subset.refl _)

/-- Kept scans are up to date when no file changed within the time after which
scans are checked. -/
theorem Justifies.upToDate
    {resolver : Resolver}
    (justifies : start.Justifies events resolver)
    (quiet : ∀ reading ∈ start.changes events,
      reading < (start.run events).now - resolver.recheckAfter) :
    resolver.UpToDate (start.run events).files (start.run events).now := by
  rintro path kept ⟨cachedEq, why⟩
  rcases (justifies path kept cachedEq).current with right | ⟨seen, reading, changed, late⟩
  · exact right
  · exfalso
    rcases why with young | ⟨modified, modifiedEq, unwritten⟩
    · have recent := Resolver.sub_recheckAfter_le_time young
      have old := quiet reading changed
      exact absurd (Int.le_trans recent late) (Int.not_le.mpr old)
    · exact absurd (seen modified modifiedEq) (Int.not_lt.mpr unwritten)

/-- Up-to-date resolvers give the same answer. -/
theorem declaredLibraries_congr
    {files : FileTree}
    {now : Time}
    {resolver other : Resolver}
    (inMemory : files.access = .exact)
    (upToDate : resolver.UpToDate files now)
    (otherUpToDate : other.UpToDate files now)
    (text : List Char)
    (file : Option Path)
    (registry : Registry) :
    (Include.declaredLibraries files now text file resolver registry).1 =
      (Include.declaredLibraries files now text file other registry).1 := by
  have sameFiles : (includedFiles files now (Markup.scan text).includes file resolver).1 =
      (includedFiles files now (Markup.scan text).includes file other).1 := by
    cases file with
    | none => rfl
    | some page =>
        have lists := upToDate.lists_includedFiles inMemory page (Markup.scan text).includes
        have otherLists :=
          otherUpToDate.lists_includedFiles inMemory page (Markup.scan text).includes
        exact lists.unique otherLists
  have sameDeclarations : (declarations files now text file resolver).1 =
      (declarations files now text file other).1 := by
    simp only [declarations, sameFiles]
  rw [Include.declaredLibraries, Include.declaredLibraries]
  generalize declarations files now text file resolver = seen at sameDeclarations ⊢
  generalize declarations files now text file other = otherSeen at sameDeclarations ⊢
  obtain ⟨visible, followed⟩ := seen
  obtain ⟨otherVisible, otherFollowed⟩ := otherSeen
  cases sameDeclarations
  cases visible <;> rfl

/-- In an orderly run from any files in memory and no kept scans, every scan
that a question uses is that of the content the file had at some moment of the
last `recheckAfter` milliseconds.  If no file changed in that time, the answer
is that of any resolver without kept scans. -/
theorem staleness_bounded
    (start : Workspace)
    (inMemory : start.files.access = .exact)
    (nothingKept : start.resolver.cache = [])
    (events : List Event)
    (orderly : start.Orderly events)
    (text : List Char)
    (file : Option Path) :
    let workspace := start.run events
    let since := workspace.now - start.resolver.recheckAfter
    (∀ item ∈ (Include.includedFiles workspace.files workspace.now (Markup.scan text).includes
        file workspace.resolver).1,
      start.RightSince events since item.path item.scan) ∧
    ((∀ reading ∈ start.changes events, reading < since) →
      ∀ fresh : Resolver, fresh.cache = [] →
        (workspace.declaredLibraries text file).1 =
          ({ workspace with resolver := fresh }.declaredLibraries text file).1) := by
  intro workspace since
  have justifies := justifies_run inMemory nothingKept orderly
  have sinceEq : workspace.now - workspace.resolver.recheckAfter = since := by
    rw [recheckAfter_run]
  rw [← sinceEq]
  refine ⟨(justifies.includedFiles (Markup.scan text).includes file).2, ?_⟩
  intro quiet fresh freshEmpty
  exact declaredLibraries_congr (inMemory_run inMemory events) (justifies.upToDate quiet)
    (Resolver.upToDate_of_cache_eq_nil freshEmpty) text file workspace.registry

/-- A file that declares a library. -/
def sampleStart : Workspace :=
  { files :=
      { files :=
          [ (⟨[.root, .name "a"]⟩,
              { content := some "<%@ taglib prefix=\"c\" uri=\"core\" %>", modified := 0 }) ] } }

/-- The text of a page that includes the file. -/
def samplePage : List Char :=
  "<%@ include file=\"a\" %>".toList

/-- The file is scanned, and later written with another content. -/
def sampleEvents : List Event :=
  [ .advance 500,
    .write ⟨[.root, .name "a"]⟩ (some "<%@ taglib prefix=\"d\" uri=\"core\" %>"),
    .advance 100,
    .ask samplePage (some ⟨[.root, .name "p"]⟩) ]

/-- Half a second after the write, the scan from before it is no longer used. -/
theorem sampleEvents_staleness_bounded :
    let workspace := sampleStart.run sampleEvents
    sampleStart.files.access = .exact ∧ sampleStart.resolver.cache = [] ∧
      sampleStart.Orderly sampleEvents ∧
      (workspace.declaredLibraries samplePage (some ⟨[.root, .name "p"]⟩)).1 =
        ({ workspace with resolver := {} }.declaredLibraries samplePage
          (some ⟨[.root, .name "p"]⟩)).1 := by
  intro workspace
  have orderly : sampleStart.Orderly sampleEvents := by
    have asked : sampleStart.Orderly [.advance 100, .ask samplePage (some ⟨[.root, .name "p"]⟩)] :=
      ⟨⟨trivial, nofun⟩, nofun⟩
    refine ⟨⟨asked, ?_⟩, nofun⟩
    intro path content _ kept cachedEq
    have justified := justifies_run rfl rfl asked.1 path kept cachedEq
    exact Int.lt_of_le_of_lt justified.time_le (by decide)
  have changesEq : sampleStart.changes sampleEvents = [100] := rfl
  have quiet : ∀ reading ∈ sampleStart.changes sampleEvents, reading < 600 - 400 := by
    rw [changesEq]
    decide
  exact ⟨rfl, rfl, orderly,
    (staleness_bounded sampleStart rfl rfl sampleEvents orderly samplePage
      (some ⟨[.root, .name "p"]⟩)).2 quiet {} rfl⟩

end Workspace
end JspCompletion
