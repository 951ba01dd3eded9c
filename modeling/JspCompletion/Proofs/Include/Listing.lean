import JspCompletion.Include.Resolver

/-!
# The files that a page includes

This module says which files a page includes and in which order, in terms of
the files alone: no scans are kept and no clock is read.  A file is reachable
when a chain of includes leads to it from the page without coming back to the
page.  The listing of a page follows its includes in order, entering each file
that is not already on the way.

Files on the way are not entered again, so a listing follows chains without
repetition only.  It still holds every reachable file, because a chain can be
cut short where it comes back to a file.
-/

namespace JspCompletion

/-- What the file at a path declares and includes, as it is on disk. -/
def FileTree.scan? (files : FileTree) (path : Path) : Option Markup.FileScan :=
  (files.read? path).map fun text => Markup.scan text.toList

namespace Include

/-- An include in a file that leads to no file that can be read. -/
def LeadsNowhere (files : FileTree) (file : Path) (text : String) : Prop :=
  ∀ path, target? file text = some path → files.scan? path = none

/-- An include of a list leads from a file to a path, where a file is. -/
structure Step
    (files : FileTree)
    (file : Path)
    (includes : List String)
    (path : Path)
    (scan : Markup.FileScan) : Prop where
  /-- Some include resolves to the path. -/
  resolves : ∃ text ∈ includes, target? file text = some path
  /-- The file there has this scan. -/
  found : files.scan? path = some scan

/-- A chain of includes leads from the page to a file, and does not pass
through the page's own path. -/
inductive Reaches
    (files : FileTree)
    (page : Path)
    (includes : List String) : Path → Markup.FileScan → Prop
  /-- The page includes the file. -/
  | direct {path : Path} {scan : Markup.FileScan} :
      Step files page includes path scan →
      path ≠ page →
      Reaches files page includes path scan
  /-- A reachable file includes the file. -/
  | through {via path : Path} {passed scan : Markup.FileScan} :
      Reaches files page includes via passed →
      Step files via passed.includes path scan →
      path ≠ page →
      Reaches files page includes path scan

/-- The files that includes of a file lead to, in order, behind a trace of
files that are already on the way. -/
inductive Lists (files : FileTree) : List Path → Path → List String → List Included → Prop
  /-- No include, no file. -/
  | nil {trace : List Path} {file : Path} :
      Lists files trace file [] []
  /-- An include that leads nowhere or back to the way adds nothing. -/
  | skip
      {trace : List Path} {file : Path} {text : String} {rest : List String}
      {later : List Included} :
      (∀ path, target? file text = some path → path ∈ trace ∨ files.scan? path = none) →
      Lists files trace file rest later →
      Lists files trace file (text :: rest) later
  /-- Any other include adds its file, then what the file includes. -/
  | enter
      {trace : List Path} {file path : Path} {text : String} {rest : List String}
      {scan : Markup.FileScan} {inner later : List Included} :
      target? file text = some path →
      path ∉ trace →
      files.scan? path = some scan →
      Lists files (path :: trace) path scan.includes inner →
      Lists files trace file rest later →
      Lists files trace file (text :: rest) ({ path := path, scan := scan } :: inner ++ later)

/-- A chain of includes leads to a file behind a trace, and never comes back to
the way. -/
inductive Leads
    (files : FileTree) :
    List Path → Path → List String → Path → Markup.FileScan → Prop
  /-- The file is included. -/
  | here
      {trace : List Path} {file path : Path} {includes : List String}
      {scan : Markup.FileScan} :
      Step files file includes path scan →
      path ∉ trace →
      Leads files trace file includes path scan
  /-- An included file leads on. -/
  | onward
      {trace : List Path} {file via path : Path} {includes : List String}
      {passed scan : Markup.FileScan} :
      Step files file includes via passed →
      via ∉ trace →
      Leads files (via :: trace) via passed.includes path scan →
      Leads files trace file includes path scan

variable {files : FileTree}

/-! ## Listings -/

namespace Lists

/-- There is only one listing. -/
theorem unique
    {trace : List Path}
    {file : Path}
    {includes : List String}
    {listed other : List Included}
    (lists : Lists files trace file includes listed)
    (otherLists : Lists files trace file includes other) :
    listed = other := by
  induction lists generalizing other with
  | nil =>
      cases otherLists
      rfl
  | skip skipped _ inductionHypothesis =>
      cases otherLists with
      | skip _ otherLater => exact inductionHypothesis otherLater
      | enter resolves new found _ _ =>
          rcases skipped _ resolves with onWay | missing
          · exact absurd onWay new
          · rw [missing] at found
            cases found
  | enter resolves new found _ _ innerHypothesis laterHypothesis =>
      cases otherLists with
      | skip skipped _ =>
          rcases skipped _ resolves with onWay | missing
          · exact absurd onWay new
          · rw [missing] at found
            cases found
      | enter otherResolves _ otherFound otherInner otherLater =>
          rw [resolves] at otherResolves
          cases otherResolves
          rw [found] at otherFound
          cases otherFound
          rw [innerHypothesis otherInner, laterHypothesis otherLater]

/-- Includes that lead nowhere may as well be left out. -/
theorem leave_out_iff
    {trace : List Path}
    {file : Path}
    {front back : List String}
    {failing : String}
    (nowhere : LeadsNowhere files file failing)
    (listed : List Included) :
    Lists files trace file (front ++ failing :: back) listed ↔
      Lists files trace file (front ++ back) listed := by
  induction front generalizing listed with
  | nil =>
      constructor
      · intro lists
        cases lists with
        | skip _ later => exact later
        | enter resolves _ found _ _ =>
            rw [nowhere _ resolves] at found
            cases found
      · intro lists
        exact skip (fun path resolves => Or.inr (nowhere path resolves)) lists
  | cons text rest inductionHypothesis =>
      constructor
      · intro lists
        cases lists with
        | skip skipped later => exact skip skipped ((inductionHypothesis _).mp later)
        | enter resolves new found inner later =>
            exact enter resolves new found inner ((inductionHypothesis _).mp later)
      · intro lists
        cases lists with
        | skip skipped later => exact skip skipped ((inductionHypothesis _).mpr later)
        | enter resolves new found inner later =>
            exact enter resolves new found inner ((inductionHypothesis _).mpr later)

end Lists

/-! ## Listings hold what chains lead to -/

/-- More includes lead to no fewer files. -/
theorem Leads.mono
    {trace : List Path}
    {file path : Path}
    {includes more : List String}
    {scan : Markup.FileScan}
    (leads : Leads files trace file includes path scan)
    (subset : includes ⊆ more) :
    Leads files trace file more path scan := by
  have widen {other : Path} {found : Markup.FileScan}
      (step : Step files file includes other found) : Step files file more other found := by
    obtain ⟨⟨text, member, resolves⟩, found⟩ := step
    exact ⟨⟨text, subset member, resolves⟩, found⟩
  cases leads with
  | here step new => exact here (widen step) new
  | onward step new leads => exact onward (widen step) new leads

/-- A listing holds exactly the files that chains without repetition lead to,
each with its scan. -/
theorem Lists.mem_iff_leads
    {trace : List Path}
    {file : Path}
    {includes : List String}
    {listed : List Included}
    (lists : Lists files trace file includes listed)
    (item : Included) :
    item ∈ listed ↔ Leads files trace file includes item.path item.scan := by
  induction lists with
  | nil =>
      constructor
      · intro member
        cases member
      · intro leads
        cases leads with
        | here step _ => simpa using step.resolves
        | onward step _ _ => simpa using step.resolves
  | @skip trace file text rest later skipped _ inductionHypothesis =>
      rw [inductionHypothesis]
      constructor
      · intro leads
        exact leads.mono (List.subset_cons_self text rest)
      · intro leads
        have narrow {other : Path} {found : Markup.FileScan}
            (step : Step files file (text :: rest) other found)
            (new : other ∉ trace) : Step files file rest other found := by
          obtain ⟨⟨chosen, member, resolves⟩, found⟩ := step
          rcases List.mem_cons.mp member with rfl | later
          · rcases skipped other resolves with onWay | missing
            · exact absurd onWay new
            · rw [missing] at found
              cases found
          · exact ⟨⟨chosen, later, resolves⟩, found⟩
        cases leads with
        | here step new => exact Leads.here (narrow step new) new
        | onward step new onward => exact Leads.onward (narrow step new) new onward
  | @enter trace file path text rest scan inner later resolves new found _ _
      innerHypothesis laterHypothesis =>
      have entered : Step files file (text :: rest) path scan :=
        ⟨⟨text, List.mem_cons_self, resolves⟩, found⟩
      have split {other : Path} {otherScan : Markup.FileScan}
          (step : Step files file (text :: rest) other otherScan) :
          (other = path ∧ otherScan = scan) ∨ Step files file rest other otherScan := by
        obtain ⟨⟨chosen, member, otherResolves⟩, otherFound⟩ := step
        rcases List.mem_cons.mp member with rfl | later
        · rw [resolves] at otherResolves
          cases otherResolves
          rw [found] at otherFound
          cases otherFound
          exact Or.inl ⟨rfl, rfl⟩
        · exact Or.inr ⟨⟨chosen, later, otherResolves⟩, otherFound⟩
      simp only [List.cons_append, List.mem_cons, List.mem_append, innerHypothesis,
        laterHypothesis]
      constructor
      · rintro (rfl | fromInner | fromLater)
        · exact Leads.here entered new
        · exact Leads.onward entered new fromInner
        · exact fromLater.mono (List.subset_cons_self text rest)
      · intro leads
        cases leads with
        | here step otherNew =>
            rcases split step with ⟨pathEq, scanEq⟩ | later
            · left
              cases item
              cases pathEq
              cases scanEq
              rfl
            · exact Or.inr (Or.inr (Leads.here later otherNew))
        | onward step otherNew onward =>
            rcases split step with ⟨rfl, rfl⟩ | later
            · exact Or.inr (Or.inl onward)
            · exact Or.inr (Or.inr (Leads.onward later otherNew onward))

/-! ## Chains without repetition reach everything -/

/-- A chain can be extended by a step.  Where the step comes back to a file of
the chain, the chain is cut short there. -/
theorem Leads.extend
    {trace : List Path}
    {file via path : Path}
    {includes : List String}
    {passed scan : Markup.FileScan}
    (leads : Leads files trace file includes via passed)
    (step : Step files via passed.includes path scan)
    (new : path ∉ trace) :
    Leads files trace file includes path scan := by
  have sameScan {other : Path} {otherScan : Markup.FileScan}
      {otherFile : Path} {otherIncludes : List String}
      (otherStep : Step files otherFile otherIncludes other otherScan)
      (same : path = other) : Step files otherFile otherIncludes path scan := by
    subst same
    exact ⟨otherStep.resolves, step.found⟩
  induction leads with
  | @here trace file via includes passed first firstNew =>
      by_cases same : path = via
      · exact here (sameScan first same) new
      · refine onward first firstNew (here step ?_)
        exact List.not_mem_cons_of_ne_of_not_mem same new
  | @onward trace file next via includes between passed first firstNew _
      inductionHypothesis =>
      by_cases same : path = next
      · exact here (sameScan first same) new
      · refine Leads.onward first firstNew (inductionHypothesis step ?_)
        exact List.not_mem_cons_of_ne_of_not_mem same new

/-- Every reachable file is reached by a chain without repetition. -/
theorem Reaches.leads
    {page path : Path}
    {includes : List String}
    {scan : Markup.FileScan}
    (reaches : Reaches files page includes path scan) :
    Leads files [page] page includes path scan := by
  induction reaches with
  | direct step notPage =>
      exact Leads.here step (by simpa using notPage)
  | through _ step notPage inductionHypothesis =>
      exact inductionHypothesis.extend step (by simpa using notPage)

/-- Chains without repetition pass through reachable files only. -/
theorem Leads.reaches
    {trace : List Path}
    {page file path : Path}
    {includes onPage : List String}
    {scan : Markup.FileScan}
    (leads : Leads files trace file includes path scan)
    (pageOnWay : page ∈ trace)
    (fromPage : ∀ {other found}, Step files file includes other found → other ≠ page →
      Reaches files page onPage other found) :
    Reaches files page onPage path scan := by
  have notPage {other : Path} {trace : List Path}
      (new : other ∉ trace) (pageOnWay : page ∈ trace) : other ≠ page := by
    rintro rfl
    exact new pageOnWay
  induction leads with
  | here step new => exact fromPage step (notPage new pageOnWay)
  | onward step new _ inductionHypothesis =>
      have passed := fromPage step (notPage new pageOnWay)
      apply inductionHypothesis (List.mem_cons_of_mem _ pageOnWay)
      intro other found next otherNotPage
      exact Reaches.through passed next otherNotPage

/-- The listing of a page holds exactly the reachable files, each with its
scan. -/
theorem Lists.mem_iff_reaches
    {page : Path}
    {includes : List String}
    {listed : List Included}
    (lists : Lists files [page] page includes listed)
    (item : Included) :
    item ∈ listed ↔ Reaches files page includes item.path item.scan := by
  rw [lists.mem_iff_leads]
  constructor
  · intro leads
    exact leads.reaches List.mem_cons_self fun step notPage => Reaches.direct step notPage
  · exact Reaches.leads

end Include
end JspCompletion
