import JspCompletion.Proofs.Include.Crawl
import Mathlib.Data.Set.Card

/-!
# Following includes comes to an end

`Follows` says how includes are followed, without any bound on how far: it is
the plain rule that a file on the way is not entered again.  The main result
says that this rule always comes to an end, that it leaves nothing open, and
that the crawl does exactly what it says, for any files, kept scans and paths.
In particular the list of paths that a crawl may still enter, which makes its
recursion well founded, never keeps it from entering a file.

Of the files on the way all but the page were found, on disk or among the kept
scans, and none stands there twice.  So there are no more of them than paths
that can be read or have a kept scan.  Where files are found by walking through
directories, a path that an include leads to is one of two spellings of a place
where a file was written, because a `..` stays only directly below the root.
-/

namespace JspCompletion

/-! ## Paths that includes lead to -/

namespace Path

/-- Segments in which a `..` stands only in front or directly below the root,
and a `.` nowhere. -/
def IsSettled (segments : List Segment) : Prop :=
  ∃ front later, segments = front ++ later ∧
    front ∈ [[], [.root], [.up], [.root, .up]] ∧ .here ∉ later ∧ .up ∉ later

theorem IsSettled.dropLast
    {segments : List Segment}
    (settled : IsSettled segments) :
    IsSettled segments.dropLast := by
  obtain ⟨front, later, rfl, isFront, noHere, noUp⟩ := settled
  by_cases empty : later = []
  · subst empty
    refine ⟨front.dropLast, [], by simp, ?_, by simp, by simp⟩
    simp only [List.mem_cons, List.not_mem_nil, or_false] at isFront
    rcases isFront with rfl | rfl | rfl | rfl <;> simp
  · refine ⟨front, later.dropLast, List.dropLast_append_of_ne_nil empty, isFront, ?_, ?_⟩
    · exact fun member => noHere (List.mem_of_mem_dropLast member)
    · exact fun member => noUp (List.mem_of_mem_dropLast member)

theorem IsSettled.push
    {stack : List Segment}
    (settled : IsSettled stack)
    (segment : Segment) :
    IsSettled (push stack segment) := by
  have append (last : Segment) (notHere : last ≠ .here) (notUp : last ≠ .up) :
      IsSettled (stack ++ [last]) := by
    obtain ⟨front, later, rfl, isFront, noHere, noUp⟩ := settled
    refine ⟨front, later ++ [last], by simp, isFront, ?_, ?_⟩
    · simp [noHere, Ne.symm notHere]
    · simp [noUp, Ne.symm notUp]
  cases segment with
  | here => exact settled
  | up =>
      simp only [Path.push]
      split
      · exact ⟨[.up], [], rfl, by simp, by simp, by simp⟩
      · exact ⟨[.root, .up], [], rfl, by simp, by simp, by simp⟩
      · exact settled.dropLast
  | root => exact append _ nofun nofun
  | name text => exact append _ nofun nofun
  | raw bytes => exact append _ nofun nofun

/-- A settled absolute path has no `..` but one directly below the root. -/
theorem IsSettled.cases_of_isAbsolute
    {path : Path}
    (settled : IsSettled path.segments)
    (absolute : path.isAbsolute = true) :
    ∃ later, .here ∉ later ∧ .up ∉ later ∧
      (path = ⟨.root :: later⟩ ∨ path = FileTree.throughTop ⟨.root :: later⟩) := by
  obtain ⟨segments⟩ := path
  obtain ⟨front, later, rfl, isFront, noHere, noUp⟩ := settled
  simp only [List.mem_cons, List.not_mem_nil, or_false] at isFront
  rcases isFront with rfl | rfl | rfl | rfl
  · cases later with
    | nil => simp [isAbsolute] at absolute
    | cons first rest =>
        obtain rfl : first = .root := by simpa [isAbsolute] using absolute
        refine ⟨rest, ?_, ?_, Or.inl rfl⟩
        · exact fun member => noHere (List.mem_cons_of_mem _ member)
        · exact fun member => noUp (List.mem_cons_of_mem _ member)
  · exact ⟨later, noHere, noUp, Or.inl rfl⟩
  · simp [isAbsolute] at absolute
  · exact ⟨later, noHere, noUp, Or.inr rfl⟩

theorem isSettled_normalize (path : Path) : IsSettled path.normalize.segments := by
  have settled (segments stack : List Segment) (isSettled : IsSettled stack) :
      IsSettled (segments.foldl Path.push stack) := by
    induction segments generalizing stack with
    | nil => exact isSettled
    | cons segment rest inductionHypothesis => exact inductionHypothesis _ (isSettled.push segment)
  exact settled path.segments [] ⟨[], [], rfl, by simp, by simp, by simp⟩

end Path

theorem Include.isSettled_of_target?
    {file path : Path}
    {text : String}
    (resolves : target? file text = some path) :
    Path.IsSettled path.segments := by
  unfold target? at resolves
  split at resolves
  · obtain ⟨root, -, rfl⟩ := Option.map_eq_some_iff.mp resolves
    exact Path.isSettled_normalize _
  · rw [← Option.some.inj resolves]
    exact Path.isSettled_normalize _

namespace FileTree

variable {tree : FileTree}

/-- Without `.` and `..`, segments are followed name by name. -/
theorem followFrom_eq_append
    {segments place found : List Segment}
    (noHere : .here ∉ segments)
    (noUp : .up ∉ segments)
    (followed : tree.followFrom place segments = .ok found) :
    found = place ++ segments := by
  induction segments generalizing place with
  | nil =>
      cases followed
      simp
  | cons segment rest inductionHypothesis =>
      have onward := @inductionHypothesis (place ++ [segment])
        (fun member => noHere (List.mem_cons_of_mem _ member))
        (fun member => noUp (List.mem_cons_of_mem _ member))
      cases segment with
      | name name =>
          simp only [followFrom] at followed
          split at followed
          · cases followed
          · split at followed
            · simpa using onward followed
            · cases followed
      | here => exact absurd List.mem_cons_self noHere
      | up => exact absurd List.mem_cons_self noUp
      | root =>
          simp only [followFrom] at followed
          split at followed <;> cases followed
      | raw bytes =>
          simp only [followFrom] at followed
          split at followed <;> cases followed

theorem mem_written_of_file?_ne_none
    {path : Path}
    (found : tree.file? path ≠ none) :
    path ∈ tree.files.map (·.1) := by
  rw [file?, ne_eq, Option.map_eq_none_iff, List.find?_eq_none] at found
  push Not at found
  obtain ⟨item, member, same⟩ := found
  rw [← beq_iff_eq.mp same]
  exact List.mem_map_of_mem member

/-- At the root a `..` leads back to the root. -/
theorem followFrom_up
    {segments found : List Segment}
    (followed : tree.followFrom [.root] (.up :: segments) = .ok found) :
    tree.followFrom [.root] segments = .ok found := by
  simp only [followFrom] at followed
  split at followed
  · cases followed
  · exact followed

theorem followFrom_of_follow
    {path place : Path}
    (followed : tree.follow path = .ok place) :
    path.isAbsolute = true ∧ tree.followFrom [.root] path.segments.tail = .ok place.segments := by
  unfold follow at followed
  split at followed
  · rename_i absolute
    refine ⟨absolute, ?_⟩
    cases walked : tree.followFrom [.root] path.segments.tail with
    | error failure =>
        rw [walked] at followed
        cases followed
    | ok segments =>
        rw [walked] at followed
        cases followed
        rfl
  · cases followed

/-- A settled path that leads to a file is listed: it is the path that was
written, or the same path through the top. -/
theorem mem_paths_of_find?_ne_none
    {path : Path}
    (settled : Path.IsSettled path.segments)
    (found : tree.find? path ≠ none) :
    path ∈ tree.paths := by
  unfold paths
  unfold find? at found
  cases access : tree.access with
  | exact =>
      simp only [access] at found
      exact mem_written_of_file?_ne_none found
  | walking =>
      simp only [access] at found
      cases followed : tree.follow path with
      | error failure => simp [followed] at found
      | ok place =>
          simp only [followed] at found
          have written := mem_written_of_file?_ne_none found
          obtain ⟨absolute, walked⟩ := followFrom_of_follow followed
          obtain ⟨later, noHere, noUp, rfl | rfl⟩ := settled.cases_of_isAbsolute absolute
          · have placeEq : place = ⟨.root :: later⟩ :=
              congrArg Path.mk (followFrom_eq_append noHere noUp walked)
            rw [placeEq] at written
            exact List.mem_append_left _ written
          · have placeEq : place = ⟨.root :: later⟩ :=
              congrArg Path.mk (followFrom_eq_append noHere noUp (followFrom_up walked))
            rw [placeEq] at written
            exact List.mem_append_right _ (List.mem_map_of_mem written)

end FileTree

namespace Include

/-! ## The plain rule -/

/-- What following includes comes to. -/
structure Outcome where
  /-- The files that were entered, in order. -/
  listed : List Included
  /-- The traces behind which the includes of a file were followed, in order. -/
  traces : List (List Path)
  /-- The resolver afterwards. -/
  resolver : Resolver

/-- How the includes of a file are followed: one after the other, and with each
file that is entered its own includes.  Nothing bounds how far. -/
inductive Follows
    (files : FileTree)
    (now : Time) :
    (trace : List Path) → (file : Path) → (includes : List String) → Resolver → Outcome → Prop
  /-- Nothing is left to follow. -/
  | done {trace : List Path} {file : Path} {resolver : Resolver} :
      Follows files now trace file [] resolver ⟨[], [], resolver⟩
  /-- An include leads nowhere, or to a file on the way. -/
  | pass
      {trace : List Path} {file : Path} {text : String} {rest : List String}
      {resolver : Resolver} {outcome : Outcome} :
      (∀ path, target? file text = some path → path ∈ trace) →
      Follows files now trace file rest resolver outcome →
      Follows files now trace file (text :: rest) resolver outcome
  /-- A file is visited and gone. -/
  | gone
      {trace : List Path} {file path : Path} {text : String} {rest : List String}
      {resolver visited : Resolver} {outcome : Outcome} :
      target? file text = some path →
      path ∉ trace →
      resolver.visit files now path = (none, visited) →
      Follows files now trace file rest visited outcome →
      Follows files now trace file (text :: rest) resolver outcome
  /-- A file is visited and its own includes are followed. -/
  | enter
      {trace : List Path} {file path : Path} {text : String} {rest : List String}
      {scan : Markup.FileScan} {resolver visited : Resolver} {inner later : Outcome} :
      target? file text = some path →
      path ∉ trace →
      resolver.visit files now path = (some scan, visited) →
      Follows files now (path :: trace) path scan.includes visited inner →
      Follows files now trace file rest inner.resolver later →
      Follows files now trace file (text :: rest) resolver
        { listed := { path := path, scan := scan } :: inner.listed ++ later.listed
          traces := (path :: trace) :: inner.traces ++ later.traces
          resolver := later.resolver }

/-- The rule leaves nothing open. -/
theorem Follows.unique
    {files : FileTree}
    {now : Time}
    {trace : List Path}
    {file : Path}
    {includes : List String}
    {resolver : Resolver}
    {outcome other : Outcome}
    (follows : Follows files now trace file includes resolver outcome)
    (otherFollows : Follows files now trace file includes resolver other) :
    outcome = other := by
  induction follows generalizing other with
  | done =>
      cases otherFollows
      rfl
  | pass onWay _ inductionHypothesis =>
      cases otherFollows with
      | pass _ later => exact inductionHypothesis later
      | gone resolves new _ _ => exact absurd (onWay _ resolves) new
      | enter resolves new _ _ _ => exact absurd (onWay _ resolves) new
  | gone resolves new visitEq _ inductionHypothesis =>
      cases otherFollows with
      | pass onWay _ => exact absurd (onWay _ resolves) new
      | gone otherResolves _ otherVisit later =>
          cases resolves.symm.trans otherResolves
          cases visitEq.symm.trans otherVisit
          exact inductionHypothesis later
      | enter otherResolves _ otherVisit _ _ =>
          cases resolves.symm.trans otherResolves
          cases visitEq.symm.trans otherVisit
  | enter resolves new visitEq _ _ innerHypothesis laterHypothesis =>
      cases otherFollows with
      | pass onWay _ => exact absurd (onWay _ resolves) new
      | gone otherResolves _ otherVisit _ =>
          cases resolves.symm.trans otherResolves
          cases visitEq.symm.trans otherVisit
      | enter otherResolves _ otherVisit inner later =>
          cases resolves.symm.trans otherResolves
          cases visitEq.symm.trans otherVisit
          obtain rfl := innerHypothesis inner
          obtain rfl := laterHypothesis later
          rfl

/-! ## Paths that can be entered -/

namespace Resolver

/-- The scan of a path can be had: there is a file, or a kept scan. -/
def CanEnter (resolver : Resolver) (files : FileTree) (path : Path) : Prop :=
  files.read? path ≠ none ∨ resolver.cached? path ≠ none

variable {files : FileTree} {now : Time} {base resolver visited : Resolver} {path : Path}

/-- What can be entered and is led to by an include is available. -/
theorem CanEnter.mem_available
    (canEnter : base.CanEnter files path)
    (settled : Path.IsSettled path.segments) :
    path ∈ base.available files := by
  rw [available, List.mem_eraseDups, List.mem_append]
  rcases canEnter with readable | kept
  · right
    apply FileTree.mem_paths_of_find?_ne_none settled
    intro missing
    simp [FileTree.read?, missing] at readable
  · left
    rw [cached?, ne_eq, Option.map_eq_none_iff, List.find?_eq_none] at kept
    push Not at kept
    obtain ⟨item, member, same⟩ := kept
    rw [← beq_iff_eq.mp same]
    exact List.mem_map_of_mem member

/-- No path can be entered that could not be entered with another resolver. -/
def Within (resolver base : Resolver) (files : FileTree) : Prop :=
  ∀ path, resolver.CanEnter files path → base.CanEnter files path

/-- Visits add no path to those that can be entered. -/
theorem Within.visit
    {scan : Option Markup.FileScan}
    (within : resolver.Within base files)
    (visitEq : resolver.visit files now path = (scan, visited)) :
    visited.Within base files := by
  intro other canEnter
  apply within
  rcases canEnter with readable | kept
  · exact Or.inl readable
  · rcases resolver.visit_cases files now path with
      ⟨_, -, isKept⟩ | ⟨-, isGone⟩ | isRead
    · cases isKept.symm.trans visitEq
      exact Or.inr kept
    · cases isGone.symm.trans visitEq
      exact Or.inr kept
    · obtain ⟨scan, scanEq⟩ := Option.ne_none_iff_exists'.mp kept
      have visitedEq : visited = (resolver.readScan files now path).2 := by
        rw [← isRead, visitEq]
      rw [visitedEq] at scanEq
      rcases cached?_readScan_cases scanEq with old | ⟨rfl, -, right⟩
      · exact Or.inr (by simp [old])
      · left
        intro missing
        simp [FileTree.scan?, missing] at right

/-- A path that gives a scan when visited can be entered. -/
theorem canEnter_of_visit
    {scan : Markup.FileScan}
    (visitEq : resolver.visit files now path = (some scan, visited)) :
    resolver.CanEnter files path := by
  rcases resolver.visit_cases files now path with
    ⟨kept, reuses, isKept⟩ | ⟨-, isGone⟩ | isRead
  · exact Or.inr (by simp [reuses.1])
  · rw [isGone] at visitEq
    cases visitEq
  · left
    intro missing
    have nothing := resolver.readScan_fst files now path
    rw [← isRead, visitEq] at nothing
    simp [FileTree.scan?, missing] at nothing

end Resolver

/-! ## Crawls follow the rule -/

section Rule

variable {files : FileTree} {now : Time} {base resolver after : Resolver}
  {trace remaining : List Path} {file page : Path} {includes : List String}
  {listed : List Included} {outcome : Outcome}

/-- A crawl follows the plain rule, as long as every path that can be entered
and is not on the way is among the remaining ones. -/
theorem Crawls.follows
    (crawls : Crawls files now trace remaining file includes resolver listed after)
    (within : resolver.Within base files)
    (expected : ∀ path, Path.IsSettled path.segments → base.CanEnter files path →
      path ∉ trace → path ∈ remaining) :
    (∃ traces, Follows files now trace file includes resolver ⟨listed, traces, after⟩) ∧
      after.Within base files := by
  induction crawls with
  | done => exact ⟨⟨[], Follows.done⟩, within⟩
  | pass onWay _ inductionHypothesis =>
      obtain ⟨⟨traces, later⟩, withinAfter⟩ := inductionHypothesis within expected
      exact ⟨⟨traces, Follows.pass onWay later⟩, withinAfter⟩
  | gone resolves new visitEq _ inductionHypothesis =>
      obtain ⟨⟨traces, later⟩, withinAfter⟩ := inductionHypothesis (within.visit visitEq) expected
      exact ⟨⟨traces, Follows.gone resolves new visitEq later⟩, withinAfter⟩
  | refuse resolves new visitEq unexpected _ _ =>
      have canEnter := within _ (Resolver.canEnter_of_visit visitEq)
      exact absurd (expected _ (isSettled_of_target? resolves) canEnter new) unexpected
  | @enter trace remaining _ path _ _ _ _ _ _ _ inner later resolves new visitEq _ _ _
      innerHypothesis laterHypothesis =>
      have expectedInner : ∀ other, Path.IsSettled other.segments →
          base.CanEnter files other → other ∉ path :: trace → other ∈ remaining.erase path := by
        intro other settled canEnter otherNew
        rw [List.mem_cons, not_or] at otherNew
        rw [List.mem_erase_of_ne otherNew.1]
        exact expected other settled canEnter otherNew.2
      obtain ⟨⟨innerTraces, followsInner⟩, withinBetween⟩ :=
        innerHypothesis (within.visit visitEq) expectedInner
      obtain ⟨⟨laterTraces, followsLater⟩, withinAfter⟩ := laterHypothesis withinBetween expected
      exact ⟨⟨_, Follows.enter resolves new visitEq followsInner followsLater⟩, withinAfter⟩

/-- A trace from the page on: no path stands there twice, and all paths behind
the page can be entered. -/
structure IsWay (base : Resolver) (files : FileTree) (page : Path) (trace : List Path) : Prop where
  nodup : trace.Nodup
  entered : ∃ way, trace = way ++ [page] ∧
    ∀ path ∈ way, Path.IsSettled path.segments ∧ base.CanEnter files path

theorem isWay_page (base : Resolver) (files : FileTree) (page : Path) :
    IsWay base files page [page] :=
  ⟨List.nodup_singleton page, [], rfl, by simp⟩

theorem IsWay.cons
    {path : Path}
    (isWay : IsWay base files page trace)
    (new : path ∉ trace)
    (settled : Path.IsSettled path.segments)
    (canEnter : base.CanEnter files path) :
    IsWay base files page (path :: trace) := by
  obtain ⟨nodup, way, rfl, entered⟩ := isWay
  refine ⟨List.nodup_cons.mpr ⟨new, nodup⟩, path :: way, rfl, ?_⟩
  intro other member
  rcases List.mem_cons.mp member with rfl | behind
  · exact ⟨settled, canEnter⟩
  · exact entered other behind

/-- Every trace behind which includes are followed is a way from the page. -/
theorem Follows.isWay
    (follows : Follows files now trace file includes resolver outcome)
    (within : resolver.Within base files)
    (isWay : IsWay base files page trace) :
    (∀ other ∈ outcome.traces, IsWay base files page other) ∧
      outcome.resolver.Within base files := by
  induction follows with
  | done => exact ⟨by simp, within⟩
  | pass _ _ inductionHypothesis => exact inductionHypothesis within isWay
  | gone _ _ visitEq _ inductionHypothesis =>
      exact inductionHypothesis (within.visit visitEq) isWay
  | enter resolves new visitEq _ _ innerHypothesis laterHypothesis =>
      have longer := isWay.cons new (isSettled_of_target? resolves)
        (within _ (Resolver.canEnter_of_visit visitEq))
      obtain ⟨inner, withinBetween⟩ := innerHypothesis (within.visit visitEq) longer
      obtain ⟨later, withinAfter⟩ := laterHypothesis withinBetween isWay
      refine ⟨?_, withinAfter⟩
      intro other member
      rcases List.mem_append.mp member with entered | listedLater
      · rcases List.mem_cons.mp entered with rfl | listedInner
        · exact longer
        · exact inner other listedInner
      · exact later other listedLater

/-- A way is longer by the page at most than what can be entered. -/
theorem IsWay.length_le
    (isWay : IsWay base files page trace) :
    trace.length ≤ 1 + (base.available files).length ∧
      (trace.length : ℕ∞) ≤ 1 + {path | base.CanEnter files path}.encard := by
  obtain ⟨nodup, way, rfl, entered⟩ := isWay
  have nodupWay : way.Nodup := nodup.of_append_left
  have lengthEq : (way ++ [page]).length = 1 + way.length := by
    rw [List.length_append, List.length_singleton, Nat.add_comm]
  rw [lengthEq]
  constructor
  · apply Nat.add_le_add_left
    apply nodupWay.length_le_of_subset
    intro path member
    exact (entered path member).2.mem_available (entered path member).1
  · have subset : (way.toFinset : Set Path) ⊆ {path | base.CanEnter files path} := by
      intro path member
      exact (entered path (List.mem_toFinset.mp member)).2
    have counted := Set.encard_le_encard subset
    rw [Set.encard_coe_eq_coe_finsetCard, List.toFinset_card_of_nodup nodupWay] at counted
    push_cast
    exact add_le_add_right counted 1

end Rule

/-! ## The end of a crawl -/

/-- For any files, clock reading, kept scans, text and path of a page, the plain
rule comes to exactly one outcome, and it is the one that a page's libraries are
looked up with.  Every trace behind which includes are followed on the way holds
each path once, and is longer by one at most than the paths that could be read
or had a kept scan when the question was asked; those that includes can lead to
are listed by `available`. -/
theorem following_terminates
    (files : FileTree)
    (now : Time)
    (text : List Char)
    (page : Path)
    (resolver : Resolver)
    (registry : Registry) :
    let scan := Markup.scan text
    ∃ outcome,
      (∀ other, Follows files now [page] page scan.includes resolver other ↔ other = outcome) ∧
      declarations files now text (some page) resolver =
        (scan.namespaces ++ scan.directives ++ outcome.listed.flatMap (·.scan.directives),
          outcome.resolver) ∧
      (declaredLibraries files now text (some page) resolver registry).2.1 = outcome.resolver ∧
      ∀ trace ∈ [page] :: outcome.traces,
        trace.Nodup ∧
        trace.length ≤ 1 + (resolver.available files).length ∧
        (trace.length : ℕ∞) ≤
          1 + {path | files.read? path ≠ none ∨ resolver.cached? path ≠ none}.encard := by
  intro scan
  let crawled := crawl files now [page] (resolver.available files) page scan.includes resolver
  have crawls : Crawls files now [page] (resolver.available files) page scan.includes resolver
      crawled.1 crawled.2 := crawls_crawl ..
  have within : resolver.Within resolver files := fun _ canEnter => canEnter
  obtain ⟨⟨traces, follows⟩, -⟩ := crawls.follows within
    fun path settled canEnter _ => canEnter.mem_available settled
  have declarationsEq : declarations files now text (some page) resolver =
      (scan.namespaces ++ scan.directives ++ crawled.1.flatMap (·.scan.directives),
        crawled.2) := rfl
  refine ⟨⟨crawled.1, traces, crawled.2⟩, ?_, declarationsEq, ?_, ?_⟩
  · intro other
    constructor
    · intro otherFollows
      exact otherFollows.unique follows
    · rintro rfl
      exact follows
  · rw [declaredLibraries]
    simp only [declarationsEq]
    split <;> rfl
  · have start := isWay_page resolver files page
    intro trace member
    have isWay : IsWay resolver files page trace := by
      rcases List.mem_cons.mp member with rfl | later
      · exact start
      · exact (follows.isWay within start).1 trace later
    exact ⟨isWay.nodup, isWay.length_le⟩

end Include
end JspCompletion
