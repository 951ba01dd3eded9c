import JspCompletion.Proofs.Include.Listing

/-!
# What a crawl does

A crawl visits files in the order of their listing.  `Crawls` says what a crawl
can do at each include, guards included; every statement about crawls is an
induction over it.

Where the kept scans are up to date, a crawl lists exactly what the files on
disk say.  A resolver without kept scans is up to date, and a crawl leaves its
resolver up to date.
-/

namespace JspCompletion
namespace Include

/-! ## Looking up a key -/

/-- Leaving out a key changes what is found under that key only. -/
theorem find?_filter_ne
    {κ α : Type}
    [DecidableEq κ]
    (items : List (κ × α))
    (key other : κ) :
    (items.filter (·.1 != key)).find? (·.1 == other) =
      if other = key then none else items.find? (·.1 == other) := by
  rw [List.find?_filter]
  by_cases same : other = key
  · rw [if_pos same, List.find?_eq_none]
    intro item _
    simp [same]
  · rw [if_neg same]
    congr 1
    funext item
    by_cases isOther : item.1 = other
    · simp [isOther, same]
    · simp [isOther]

/-- Putting a value under a key changes what is found under that key only. -/
theorem find?_filter_ne_append
    {κ α : Type}
    [DecidableEq κ]
    (items : List (κ × α))
    (key other : κ)
    (value : α) :
    (items.filter (·.1 != key) ++ [(key, value)]).find? (·.1 == other) =
      if other = key then some (key, value) else items.find? (·.1 == other) := by
  rw [List.find?_append, find?_filter_ne]
  by_cases same : other = key
  · simp [same]
  · have notNew : ¬key = other := fun equal => same equal.symm
    simp [same, notNew]

/-! ## Visiting a file -/

namespace Resolver

variable {files : FileTree} {now : Time} {resolver : Resolver}

/-- Keeping a scan changes what is known about its own path only. -/
theorem cached?_keep
    (resolver : Resolver)
    (path : Path)
    (scan : CachedScan)
    (other : Path) :
    (resolver.keep path scan).cached? other =
      if other = path then some scan else resolver.cached? other := by
  simp only [cached?, keep, find?_filter_ne_append]
  split <;> rfl

/-- Reading a file gives its scan on disk, and keeps it. -/
theorem readScan_fst
    (resolver : Resolver)
    (files : FileTree)
    (now : Time)
    (path : Path) :
    (resolver.readScan files now path).1 = files.scan? path := by
  simp only [readScan, FileTree.scan?]
  cases files.read? path <;> rfl

/-- After a file was read, its scan is the only new one. -/
theorem cached?_readScan_cases
    {path other : Path}
    {kept : CachedScan}
    (found : (resolver.readScan files now path).2.cached? other = some kept) :
    resolver.cached? other = some kept ∨
      (other = path ∧ kept.time = now ∧ files.scan? path = some kept.scan) := by
  simp only [readScan, FileTree.scan?] at found ⊢
  cases textEq : files.read? path with
  | none =>
      rw [textEq] at found
      exact Or.inl found
  | some text =>
      simp only [textEq, cached?_keep] at found
      by_cases same : other = path
      · rw [if_pos same, Option.some.injEq] at found
        subst found
        exact Or.inr ⟨same, rfl, rfl⟩
      · rw [if_neg same] at found
        exact Or.inl found

@[simp] theorem recheckAfter_readScan
    (resolver : Resolver)
    (files : FileTree)
    (now : Time)
    (path : Path) :
    (resolver.readScan files now path).2.recheckAfter = resolver.recheckAfter := by
  simp only [readScan]
  cases files.read? path <;> rfl

/-- A scan that need not be checked is young. -/
theorem sub_recheckAfter_le_time
    {kept : CachedScan}
    (young : resolver.needsRecheck kept now = false) :
    now - (resolver.recheckAfter : Int) ≤ kept.time := by
  have bound (earlier later : Int) (span : Nat) (within : ¬span < (later - earlier).toNat) :
      later - span ≤ earlier := by
    omega
  exact bound kept.time now resolver.recheckAfter (of_decide_eq_false young)

/-- A kept scan is used for a file: it is young, or its file was not written
since. -/
def Reuses
    (resolver : Resolver)
    (files : FileTree)
    (now : Time)
    (path : Path)
    (kept : CachedScan) : Prop :=
  resolver.cached? path = some kept ∧
    (resolver.needsRecheck kept now = false ∨
      ∃ modified, files.modified? path = some modified ∧ modified ≤ kept.time)

/-- What a visit can do: use a kept scan, find the file gone, or read it. -/
theorem visit_cases
    (resolver : Resolver)
    (files : FileTree)
    (now : Time)
    (path : Path) :
    (∃ kept, resolver.Reuses files now path kept ∧
      resolver.visit files now path = (some kept.scan, resolver)) ∨
    (files.scan? path = none ∧ resolver.visit files now path = (none, resolver)) ∨
    resolver.visit files now path = resolver.readScan files now path := by
  rw [visit]
  cases cachedEq : resolver.cached? path with
  | none => exact Or.inr (Or.inr rfl)
  | some kept =>
      cases recheck : resolver.needsRecheck kept now with
      | false => exact Or.inl ⟨kept, ⟨cachedEq, Or.inl recheck⟩, by simp [recheck]⟩
      | true =>
          cases modifiedEq : files.modified? path with
          | none =>
              have missing : files.scan? path = none := by
                rw [FileTree.modified?, Option.map_eq_none_iff] at modifiedEq
                simp [FileTree.scan?, FileTree.read?, modifiedEq]
              exact Or.inr (Or.inl ⟨missing, by simp [recheck]⟩)
          | some modified =>
              by_cases unwritten : modified ≤ kept.time
              · exact Or.inl ⟨kept, ⟨cachedEq, Or.inr ⟨modified, modifiedEq, unwritten⟩⟩,
                  by simp [recheck, unwritten]⟩
              · exact Or.inr (Or.inr (by simp [recheck, unwritten]))

/-- Every kept scan that would be used is the scan of the file on disk. -/
def UpToDate (resolver : Resolver) (files : FileTree) (now : Time) : Prop :=
  ∀ path kept, resolver.Reuses files now path kept → files.scan? path = some kept.scan

/-- Without kept scans there is nothing to be out of date. -/
theorem upToDate_of_cache_eq_nil
    (empty : resolver.cache = []) :
    resolver.UpToDate files now := by
  intro path kept reuses
  have found := reuses.1
  simp [cached?, empty] at found

/-- A visit gives the scan on disk, and leaves the resolver up to date. -/
theorem UpToDate.visit
    (upToDate : resolver.UpToDate files now)
    (path : Path) :
    (resolver.visit files now path).1 = files.scan? path ∧
      (resolver.visit files now path).2.UpToDate files now := by
  rcases resolver.visit_cases files now path with
    ⟨kept, reuses, visitEq⟩ | ⟨missing, visitEq⟩ | visitEq
  · rw [visitEq]
    exact ⟨(upToDate path kept reuses).symm, upToDate⟩
  · rw [visitEq]
    exact ⟨missing.symm, upToDate⟩
  · rw [visitEq]
    refine ⟨resolver.readScan_fst files now path, ?_⟩
    rintro other kept ⟨cachedEq, why⟩
    have sameCheck : (resolver.readScan files now path).2.needsRecheck kept now =
        resolver.needsRecheck kept now := by
      simp [needsRecheck]
    rw [sameCheck] at why
    rcases cached?_readScan_cases cachedEq with known | ⟨rfl, _, right⟩
    · exact upToDate other kept ⟨known, why⟩
    · exact right

/-- A visit does not change when scans are checked. -/
theorem recheckAfter_visit
    (resolver : Resolver)
    (files : FileTree)
    (now : Time)
    (path : Path) :
    (resolver.visit files now path).2.recheckAfter = resolver.recheckAfter := by
  rcases resolver.visit_cases files now path with ⟨_, _, visitEq⟩ | ⟨_, visitEq⟩ | visitEq
  · rw [visitEq]
  · rw [visitEq]
  · rw [visitEq, recheckAfter_readScan]

end Resolver

/-! ## Crawling -/

/-- What a crawl can do: what it lists, and the resolver it leaves. -/
inductive Crawls
    (files : FileTree)
    (now : Time) :
    (trace remaining : List Path) → (file : Path) → (includes : List String) →
      (resolver : Resolver) → List Included → Resolver → Prop
  /-- Nothing is left to follow. -/
  | done {trace remaining : List Path} {file : Path} {resolver : Resolver} :
      Crawls files now trace remaining file [] resolver [] resolver
  /-- An include leads nowhere, or to a file on the way. -/
  | pass
      {trace remaining : List Path} {file : Path} {text : String} {rest : List String}
      {resolver after : Resolver} {later : List Included} :
      (∀ path, target? file text = some path → path ∈ trace) →
      Crawls files now trace remaining file rest resolver later after →
      Crawls files now trace remaining file (text :: rest) resolver later after
  /-- A file is visited and gone. -/
  | gone
      {trace remaining : List Path} {file path : Path} {text : String} {rest : List String}
      {resolver visited after : Resolver} {later : List Included} :
      target? file text = some path →
      path ∉ trace →
      resolver.visit files now path = (none, visited) →
      Crawls files now trace remaining file rest visited later after →
      Crawls files now trace remaining file (text :: rest) resolver later after
  /-- A file is visited that was not expected. -/
  | refuse
      {trace remaining : List Path} {file path : Path} {text : String} {rest : List String}
      {scan : Markup.FileScan} {resolver visited after : Resolver} {later : List Included} :
      target? file text = some path →
      path ∉ trace →
      resolver.visit files now path = (some scan, visited) →
      path ∉ remaining →
      Crawls files now trace remaining file rest visited later after →
      Crawls files now trace remaining file (text :: rest) resolver later after
  /-- A file is visited and its own includes are followed. -/
  | enter
      {trace remaining : List Path} {file path : Path} {text : String} {rest : List String}
      {scan : Markup.FileScan} {resolver visited between after : Resolver}
      {inner later : List Included} :
      target? file text = some path →
      path ∉ trace →
      resolver.visit files now path = (some scan, visited) →
      path ∈ remaining →
      Crawls files now (path :: trace) (remaining.erase path) path scan.includes visited
        inner between →
      Crawls files now trace remaining file rest between later after →
      Crawls files now trace remaining file (text :: rest) resolver
        ({ path := path, scan := scan } :: inner ++ later) after

/-- The crawl does what a crawl can do. -/
theorem crawls_crawl
    (files : FileTree)
    (now : Time)
    (trace remaining : List Path)
    (file : Path)
    (includes : List String)
    (resolver : Resolver) :
    Crawls files now trace remaining file includes resolver
      (crawl files now trace remaining file includes resolver).1
      (crawl files now trace remaining file includes resolver).2 := by
  induction trace, remaining, file, includes, resolver using crawl.induct files now with
  | case1 trace remaining file resolver =>
      rw [crawl]
      exact Crawls.done
  | case2 trace remaining file resolver text rest found passed headEq later after laterEq
      innerHypothesis laterHypothesis =>
      rw [laterEq] at laterHypothesis
      have resultEq : crawl files now trace remaining file (text :: rest) resolver =
          (found ++ later, after) := by
        rw [crawl]
        simp only [dite_eq_ite] at headEq ⊢
        rw [headEq]
        simp only [laterEq]
      rw [resultEq]
      cases targetEq : target? file text with
      | none =>
          simp only [targetEq, Prod.mk.injEq] at headEq
          obtain ⟨rfl, rfl⟩ := headEq
          exact Crawls.pass (by simp [targetEq]) laterHypothesis
      | some path =>
          by_cases onWay : path ∈ trace
          · simp only [targetEq, onWay, dite_true, Prod.mk.injEq] at headEq
            obtain ⟨rfl, rfl⟩ := headEq
            refine Crawls.pass ?_ laterHypothesis
            intro other resolves
            rw [targetEq] at resolves
            cases resolves
            exact onWay
          · rcases visitEq : resolver.visit files now path with ⟨scan, visited⟩
            cases scan with
            | none =>
                simp only [targetEq, onWay, dite_false, visitEq, Prod.mk.injEq] at headEq
                obtain ⟨rfl, rfl⟩ := headEq
                exact Crawls.gone targetEq onWay visitEq laterHypothesis
            | some scan =>
                by_cases expected : path ∈ remaining
                · simp only [targetEq, onWay, dite_false, visitEq, expected, dite_true,
                    Prod.mk.injEq] at headEq
                  obtain ⟨rfl, rfl⟩ := headEq
                  exact Crawls.enter targetEq onWay visitEq expected
                    (innerHypothesis path visited scan expected) laterHypothesis
                · simp only [targetEq, onWay, dite_false, visitEq, expected,
                    Prod.mk.injEq] at headEq
                  obtain ⟨rfl, rfl⟩ := headEq
                  exact Crawls.refuse targetEq onWay visitEq expected laterHypothesis

namespace Crawls

variable {files : FileTree} {now : Time} {trace remaining : List Path} {file : Path}
  {includes : List String} {resolver after : Resolver} {listed : List Included}

/-- What every visit keeps, a crawl keeps; and what every visit says about the
scan it gives, a crawl says about the scans it lists. -/
theorem invariant
    (crawls : Crawls files now trace remaining file includes resolver listed after)
    (keeps : Resolver → Prop)
    (holds : Path → Markup.FileScan → Prop)
    (visitKeeps : ∀ resolver path, keeps resolver → keeps (resolver.visit files now path).2)
    (visitHolds : ∀ resolver path scan, keeps resolver →
      (resolver.visit files now path).1 = some scan → holds path scan)
    (start : keeps resolver) :
    keeps after ∧ ∀ item ∈ listed, holds item.path item.scan := by
  induction crawls with
  | done => exact ⟨start, by simp⟩
  | pass _ _ inductionHypothesis => exact inductionHypothesis start
  | @gone _ _ _ path _ _ resolver _ _ _ _ _ visitEq _ inductionHypothesis =>
      have visited := visitKeeps resolver path start
      rw [visitEq] at visited
      exact inductionHypothesis visited
  | @refuse _ _ _ path _ _ _ resolver _ _ _ _ _ visitEq _ _ inductionHypothesis =>
      have visited := visitKeeps resolver path start
      rw [visitEq] at visited
      exact inductionHypothesis visited
  | @enter _ _ _ path _ _ scan resolver _ _ _ _ _ _ _ visitEq _ _ _ innerHypothesis
      laterHypothesis =>
      have visited := visitKeeps resolver path start
      rw [visitEq] at visited
      obtain ⟨between, inner⟩ := innerHypothesis visited
      obtain ⟨after, later⟩ := laterHypothesis between
      refine ⟨after, ?_⟩
      have here : holds path scan := visitHolds resolver path scan start (by rw [visitEq])
      intro item member
      rcases List.mem_append.mp member with entered | listedLater
      · rcases List.mem_cons.mp entered with rfl | listedInner
        · exact here
        · exact inner item listedInner
      · exact later item listedLater

/-- An up-to-date resolver lists what the files say, if no file is left out of
the paths that may be entered. -/
theorem lists
    (crawls : Crawls files now trace remaining file includes resolver listed after)
    (expected : ∀ path, files.scan? path ≠ none → path ∉ trace → path ∈ remaining)
    (upToDate : resolver.UpToDate files now) :
    Lists files trace file includes listed ∧ after.UpToDate files now := by
  induction crawls with
  | done => exact ⟨Lists.nil, upToDate⟩
  | pass onWay _ inductionHypothesis =>
      obtain ⟨later, stillUpToDate⟩ := inductionHypothesis expected upToDate
      exact ⟨Lists.skip (fun path resolves => Or.inl (onWay path resolves)) later,
        stillUpToDate⟩
  | @gone _ _ _ path _ _ resolver visited _ _ resolves _ visitEq _ inductionHypothesis =>
      have visit := upToDate.visit path
      rw [visitEq] at visit
      obtain ⟨later, stillUpToDate⟩ := inductionHypothesis expected visit.2
      refine ⟨Lists.skip ?_ later, stillUpToDate⟩
      intro other otherResolves
      rw [resolves] at otherResolves
      cases otherResolves
      exact Or.inr visit.1.symm
  | @refuse _ _ _ path _ _ scan resolver visited _ _ _ new visitEq unexpected _ _ =>
      have visit := upToDate.visit path
      rw [visitEq] at visit
      have found : files.scan? path ≠ none := by
        rw [← visit.1]
        exact Option.some_ne_none scan
      exact absurd (expected path found new) unexpected
  | @enter trace remaining _ path _ _ scan resolver visited _ _ _ _ resolves new visitEq _ _ _
      innerHypothesis laterHypothesis =>
      have visit := upToDate.visit path
      rw [visitEq] at visit
      have expectedInner : ∀ other, files.scan? other ≠ none → other ∉ path :: trace →
          other ∈ remaining.erase path := by
        intro other found otherNew
        rw [List.mem_cons, not_or] at otherNew
        rw [List.mem_erase_of_ne otherNew.1]
        exact expected other found otherNew.2
      obtain ⟨inner, betweenUpToDate⟩ := innerHypothesis expectedInner visit.2
      obtain ⟨later, stillUpToDate⟩ := laterHypothesis expected betweenUpToDate
      exact ⟨Lists.enter resolves new visit.1.symm inner later, stillUpToDate⟩

end Crawls

/-! ## Included files -/

/-- In memory, every file that can be read is among the paths that may be
entered. -/
theorem Resolver.mem_available_of_scan?_ne_none
    (resolver : Resolver)
    {files : FileTree}
    (inMemory : files.access = .exact)
    {path : Path}
    (found : files.scan? path ≠ none) :
    path ∈ resolver.available files := by
  rw [Resolver.available, List.mem_eraseDups, List.mem_append]
  right
  rw [FileTree.paths, inMemory]
  rw [FileTree.scan?, FileTree.read?, FileTree.find?, inMemory, FileTree.file?] at found
  cases itemEq : files.files.find? (·.1 == path) with
  | none => simp [itemEq] at found
  | some item =>
      have samePath : item.1 = path := by simpa using List.find?_some itemEq
      rw [← samePath]
      exact List.mem_map_of_mem (List.mem_of_find?_eq_some itemEq)

/-- Following includes does not change when scans are checked. -/
theorem recheckAfter_includedFiles
    (files : FileTree)
    (now : Time)
    (includes : List String)
    (file : Option Path)
    (resolver : Resolver) :
    (includedFiles files now includes file resolver).2.recheckAfter = resolver.recheckAfter := by
  cases file with
  | none => rfl
  | some page =>
      have crawls := crawls_crawl files now [page] (resolver.available files) page includes
        resolver
      refine (crawls.invariant (·.recheckAfter = resolver.recheckAfter) (fun _ _ => True)
        ?_ ?_ rfl).1
      · intro current path same
        exact (current.recheckAfter_visit files now path).trans same
      · intro _ _ _ _ _
        exact trivial

/-- An up-to-date resolver lists what the files in memory say. -/
theorem Resolver.UpToDate.lists_includedFiles
    {files : FileTree}
    {now : Time}
    {resolver : Resolver}
    (upToDate : resolver.UpToDate files now)
    (inMemory : files.access = .exact)
    (page : Path)
    (includes : List String) :
    Lists files [page] page includes
      (includedFiles files now includes (some page) resolver).1 := by
  have crawls := crawls_crawl files now [page] (resolver.available files) page includes resolver
  refine (crawls.lists ?_ upToDate).1
  intro path found _
  exact resolver.mem_available_of_scan?_ne_none inMemory found

end Include
end JspCompletion
