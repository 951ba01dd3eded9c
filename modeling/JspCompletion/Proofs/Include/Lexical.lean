import JspCompletion.Include.Location
import Mathlib.Data.List.Infix

/-!
# Includes resolved lexically

The segments of a path can be worked off on a stack of names: a `.` says
nothing, a name is put on top, and a `..` takes the last name away.  A `..` that
finds no name climbs out of the path.  An absolute path has nothing above it, so
the climb is forgotten; a relative path keeps it in front.

The place that an include leads to is found on a stack that holds the kept `..`
as well, and there the next climb takes the last one away again.  So only
every other climb is remembered, also below the root.  The main result says
where an include leads for every file and every text, and that this is the
lexical place exactly as long as an absolute path is climbed out of an even
number of times, and a relative one at most once.
-/

namespace JspCompletion
namespace Path

/-! ## Lexical resolution -/

/-- What is left of segments that are worked off from left to right. -/
structure Walk where
  /-- How often a `..` found no name. -/
  climbs : Nat
  /-- The names on the stack, the last one on top. -/
  names : List Segment
deriving DecidableEq, Repr

/-- One segment worked off. -/
def Walk.step (walk : Walk) (segment : Segment) : Walk :=
  match segment with
  | .root | .here => walk
  | .up =>
      if walk.names = [] then
        { walk with climbs := walk.climbs + 1 }
      else
        { walk with names := walk.names.dropLast }
  | .name _ | .raw _ => { walk with names := walk.names ++ [segment] }

/-- The segments of a path worked off. -/
def walk (path : Path) : Walk :=
  path.segments.foldl Walk.step { climbs := 0, names := [] }

/-- The path with its segments worked off.  Climbs out of the path are dropped
below the root and kept in front of a relative path. -/
def lexical (path : Path) : Path :=
  if path.isAbsolute then
    ⟨.root :: path.walk.names⟩
  else
    ⟨List.replicate path.walk.climbs .up ++ path.walk.names⟩

/-- A slash leads only at the start of the path. -/
def IsProper (path : Path) : Prop :=
  .root ∉ path.segments.tail

instance (path : Path) : Decidable path.IsProper :=
  inferInstanceAs (Decidable (.root ∉ path.segments.tail))

/-- What stands in front of all other segments. -/
def top (path : Path) : List Segment :=
  if path.isAbsolute then [.root] else []

/-! ## One stack for names and climbs -/

/-- A stack of segments that remembers every other climb of a walk. -/
structure Stacks (top stack : List Segment) (walk : Walk) : Prop where
  isTop : top = [] ∨ top = [.root]
  stack_eq : stack = top ++ (List.replicate (walk.climbs % 2) .up ++ walk.names)
  named : ∀ segment ∈ walk.names, segment.isName = true

/-- Where there is more than the root, a `..` takes the last segment away. -/
theorem push_up
    {stack : List Segment}
    (nonempty : stack ≠ [])
    (notRoot : stack ≠ [.root]) :
    push stack .up = stack.dropLast := by
  simp only [push]

namespace Stacks

variable {top stack : List Segment} {walk : Walk}

/-- A `..` that finds no name is put on the stack, unless the last climb is
still there: then it takes that climb away. -/
theorem climb
    (both : Stacks top stack walk)
    (empty : walk.names = []) :
    Stacks top (push stack .up) { walk with climbs := walk.climbs + 1 } := by
  refine ⟨both.isTop, ?_, both.named⟩
  rw [both.stack_eq, empty]
  rcases Nat.mod_two_eq_zero_or_one walk.climbs with even | odd
  · have next : (walk.climbs + 1) % 2 = 1 := by omega
    rcases both.isTop with rfl | rfl <;> simp [even, next, push]
  · have next : (walk.climbs + 1) % 2 = 0 := by omega
    rcases both.isTop with rfl | rfl <;> simp [odd, next, push]

/-- A `..` behind a name takes the name away. -/
theorem leave
    (both : Stacks top stack walk)
    (nonempty : walk.names ≠ []) :
    Stacks top (push stack .up) { walk with names := walk.names.dropLast } := by
  have onTop : stack.getLast? = walk.names.getLast? := by
    rw [both.stack_eq, ← List.append_assoc, List.getLast?_append_of_ne_nil _ nonempty]
  have notEmpty : stack ≠ [] := by
    rintro rfl
    exact nonempty (List.getLast?_eq_none_iff.mp onTop.symm)
  have notRoot : stack ≠ [.root] := by
    rintro rfl
    have isName := both.named .root (List.mem_of_getLast? onTop.symm)
    cases isName
  refine ⟨both.isTop, ?_, ?_⟩
  · rw [push_up notEmpty notRoot, both.stack_eq, ← List.append_assoc,
      List.dropLast_append_of_ne_nil nonempty, List.append_assoc]
  · exact fun segment member => both.named segment (List.mem_of_mem_dropLast member)

/-- A name is put on top of both stacks. -/
theorem enter
    (both : Stacks top stack walk)
    {segment : Segment}
    (isName : segment.isName = true) :
    Stacks top (stack ++ [segment]) { walk with names := walk.names ++ [segment] } := by
  refine ⟨both.isTop, by simp [both.stack_eq], ?_⟩
  intro other member
  rcases List.mem_append.mp member with earlier | last
  · exact both.named other earlier
  · rwa [List.mem_singleton.mp last]

/-- Both stacks work off a segment below the root alike. -/
theorem step
    (both : Stacks top stack walk)
    {segment : Segment}
    (notRoot : segment ≠ .root) :
    Stacks top (push stack segment) (walk.step segment) := by
  cases segment with
  | root => exact absurd rfl notRoot
  | here => exact both
  | up =>
      by_cases empty : walk.names = []
      · rw [Walk.step, if_pos empty]
        exact both.climb empty
      · rw [Walk.step, if_neg empty]
        exact both.leave empty
  | name text => exact both.enter rfl
  | raw bytes => exact both.enter rfl

/-- Both stacks work off any segments below the root alike. -/
theorem run
    (both : Stacks top stack walk)
    {segments : List Segment}
    (noRoot : .root ∉ segments) :
    Stacks top (segments.foldl push stack) (segments.foldl Walk.step walk) := by
  induction segments generalizing stack walk with
  | nil => exact both
  | cons segment rest inductionHypothesis =>
      have notRoot : segment ≠ .root := by
        rintro rfl
        exact noRoot List.mem_cons_self
      exact inductionHypothesis (both.step notRoot)
        (fun member => noRoot (List.mem_cons_of_mem segment member))

end Stacks

/-- A path is worked off on one stack as on two. -/
theorem stacks_normalize
    {path : Path}
    (proper : path.IsProper) :
    Stacks path.top path.normalize.segments path.walk := by
  obtain ⟨segments⟩ := path
  have relative : Stacks [] [] { climbs := 0, names := [] } := ⟨.inl rfl, rfl, nofun⟩
  have absolute : Stacks [.root] [.root] { climbs := 0, names := [] } := ⟨.inr rfl, rfl, nofun⟩
  cases segments with
  | nil => exact relative
  | cons first rest =>
      by_cases isRoot : first = .root
      · subst isRoot
        exact absolute.run proper
      · have isRelative : top ⟨first :: rest⟩ = [] := by simp [top, isAbsolute, isRoot]
        have noRoot : .root ∉ first :: rest := by
          simp only [List.mem_cons, not_or]
          exact ⟨Ne.symm isRoot, proper⟩
        rw [isRelative]
        exact relative.run noRoot

/-- The segments of a path that is worked off on one stack. -/
theorem segments_normalize
    {path : Path}
    (proper : path.IsProper) :
    path.normalize.segments =
      path.top ++ (List.replicate (path.walk.climbs % 2) .up ++ path.walk.names) :=
  (stacks_normalize proper).stack_eq

/-- Working off on one stack is lexical as long as no climb is forgotten that
counts, and none is remembered that does not. -/
theorem normalize_eq_lexical_iff
    {path : Path}
    (proper : path.IsProper) :
    path.normalize = path.lexical ↔
      if path.isAbsolute then path.walk.climbs % 2 = 0 else path.walk.climbs ≤ 1 := by
  have sameSegments : path.normalize = path.lexical ↔
      path.normalize.segments = path.lexical.segments := by
    rw [normalize, Path.mk.injEq]
  rw [sameSegments, segments_normalize proper, lexical, top]
  by_cases absolute : path.isAbsolute = true
  · simp [absolute]
  · have fewer : path.walk.climbs % 2 = path.walk.climbs ↔ path.walk.climbs ≤ 1 := by omega
    simp [absolute, fewer]

theorem here_not_mem_normalize
    {path : Path}
    (proper : path.IsProper) :
    .here ∉ path.normalize.segments := by
  have named := (stacks_normalize proper).named .here
  intro member
  rw [segments_normalize proper, List.mem_append, List.mem_append] at member
  rcases member with inTop | inClimbs | inNames
  · rw [top] at inTop
    split at inTop <;> simp at inTop
  · cases List.eq_of_mem_replicate inClimbs
  · cases named inNames

/-- A `..` is left exactly when the last climb is remembered. -/
theorem up_mem_normalize_iff
    {path : Path}
    (proper : path.IsProper) :
    .up ∈ path.normalize.segments ↔ path.walk.climbs % 2 = 1 := by
  have notTop : .up ∉ path.top := by
    rw [top]
    split <;> simp
  have notNamed : .up ∉ path.walk.names := by
    intro member
    cases (stacks_normalize proper).named .up member
  simp [segments_normalize proper, notTop, notNamed]

/-! ## Paths whose slashes lead only at the start -/

theorem root_not_mem_laterSegments (text : List Char) :
    .root ∉ laterSegments (pieces text) := by
  intro member
  rw [laterSegments, pieces, List.mem_filter, List.mem_map] at member
  obtain ⟨⟨piece, _, isRoot⟩, _⟩ := member
  unfold Segment.ofText at isRoot
  split at isRoot
  · cases isRoot
  · split at isRoot <;> cases isRoot

theorem isProper_ofText (text : String) : (ofText text).IsProper := by
  have later (text : List Char) : .root ∉ (laterSegments (pieces text)).tail :=
    fun member => root_not_mem_laterSegments text (List.mem_of_mem_tail member)
  rw [IsProper, ofText]
  split
  · exact root_not_mem_laterSegments _
  · split
    · exact root_not_mem_laterSegments _
    · exact later _

theorem IsProper.of_prefix
    {path front : Path}
    (proper : path.IsProper)
    (isFront : front.segments <+: path.segments) :
    front.IsProper := by
  obtain ⟨back, isBack⟩ := isFront
  rw [IsProper, ← isBack] at proper
  obtain ⟨segments⟩ := front
  cases segments with
  | nil => exact List.not_mem_nil
  | cons first rest => exact fun member => proper (List.mem_append_left back member)

theorem IsProper.directory
    {path : Path}
    (proper : path.IsProper) :
    path.directory.IsProper := by
  apply proper.of_prefix
  rw [Path.directory]
  split
  · exact List.nil_prefix
  · exact List.dropLast_prefix _

theorem IsProper.join
    {path : Path}
    (proper : path.IsProper)
    (text : String) :
    (path.join text).IsProper := by
  have noRoot := root_not_mem_laterSegments text.toList
  intro member
  obtain ⟨segments⟩ := path
  cases segments with
  | nil => exact noRoot (List.mem_of_mem_tail member)
  | cons first rest =>
      rcases List.mem_append.mp member with inPath | inText
      · exact proper inPath
      · exact noRoot inText

end Path

/-! ## Includes -/

namespace Include

/-- The directory that an include in a file is taken from: that of the file, or
the root of the web application. -/
def base? (file : Path) (text : String) : Option Path :=
  if text.toList.head?.any isRootMark then root? file.directory else some file.directory

/-- The segments of the base followed by those of the include. -/
def joined? (file : Path) (text : String) : Option Path :=
  (base? file text).map fun base =>
    base.join (String.ofList (text.toList.dropWhile isRootMark))

theorem target?_eq_map_joined? (file : Path) (text : String) :
    target? file text = (joined? file text).map Path.normalize := by
  rw [target?, joined?, base?]
  split
  · rw [Option.map_map]
    rfl
  · rename_i unmarked
    have whole : text.toList.dropWhile isRootMark = text.toList := by
      cases characters : text.toList with
      | nil => rfl
      | cons first rest =>
          rw [characters] at unmarked
          have plain : isRootMark first = false := by simpa using unmarked
          simp [plain]
    rw [whole, String.ofList_toList]
    rfl

theorem isProper_of_joined?
    {file joined : Path}
    {text : String}
    (proper : file.IsProper)
    (joins : joined? file text = some joined) :
    joined.IsProper := by
  rw [joined?, Option.map_eq_some_iff] at joins
  obtain ⟨base, isBase, rfl⟩ := joins
  apply Path.IsProper.join
  rw [base?] at isBase
  split at isBase
  · rw [root?, Option.map_eq_some_iff] at isBase
    obtain ⟨count, _, rfl⟩ := isBase
    exact proper.directory.of_prefix (List.take_prefix count _)
  · cases isBase
    exact proper.directory

/-- Where an include leads.  The place is the lexical one exactly when an
absolute path is climbed out of an even number of times, or a relative one at
most once.  It has no `.`, and a `..` only in front, where the number of climbs
is odd. -/
theorem target?_is_lexical_iff
    {file place : Path}
    {text : String}
    (proper : file.IsProper)
    (leads : target? file text = some place) :
    ∃ joined, joined? file text = some joined ∧
      (place = joined.lexical ↔
        if joined.isAbsolute then joined.walk.climbs % 2 = 0 else joined.walk.climbs ≤ 1) ∧
      place.segments =
        joined.top ++ (List.replicate (joined.walk.climbs % 2) .up ++ joined.walk.names) ∧
      .here ∉ place.segments ∧
      (.up ∈ place.segments ↔ joined.walk.climbs % 2 = 1) := by
  rw [target?_eq_map_joined?, Option.map_eq_some_iff] at leads
  obtain ⟨joined, joins, rfl⟩ := leads
  have joinedProper := isProper_of_joined? proper joins
  exact ⟨joined, joins, Path.normalize_eq_lexical_iff joinedProper,
    Path.segments_normalize joinedProper, Path.here_not_mem_normalize joinedProper,
    Path.up_mem_normalize_iff joinedProper⟩

/-- An include with a backslash in front, from a page below `src/main`: the
climb out of the web application passes names only. -/
theorem target?_is_lexical_of_samplePage :
    (Path.ofText "/src/main/webapp/views/page.jsp").IsProper ∧
      target? (Path.ofText "/src/main/webapp/views/page.jsp") "\\.././../x/../y.jspf" =
        some (Path.ofText "/src/y.jspf") ∧
      ∃ joined,
        joined? (Path.ofText "/src/main/webapp/views/page.jsp") "\\.././../x/../y.jspf" =
          some joined ∧
        Path.ofText "/src/y.jspf" = joined.lexical :=
  have leads : target? (Path.ofText "/src/main/webapp/views/page.jsp")
      "\\.././../x/../y.jspf" = some (Path.ofText "/src/y.jspf") := by decide
  have proper := Path.isProper_ofText "/src/main/webapp/views/page.jsp"
  have ⟨joined, joins, isLexical, _⟩ := target?_is_lexical_iff proper leads
  have fewClimbs : ∀ path ∈ joined? (Path.ofText "/src/main/webapp/views/page.jsp")
      "\\.././../x/../y.jspf",
      if path.isAbsolute then path.walk.climbs % 2 = 0 else path.walk.climbs ≤ 1 := by decide
  ⟨proper, leads, joined, joins, isLexical.mpr (fewClimbs joined joins)⟩

/-- The second climb out of a relative path takes the first one back, and a
climb above the root is remembered: neither place is the lexical one. -/
theorem target?_not_lexical :
    target? (Path.ofText "page.jsp") "../../x.jspf" = some ⟨[.name "x.jspf"]⟩ ∧
      (joined? (Path.ofText "page.jsp") "../../x.jspf").map Path.lexical =
        some ⟨[.up, .up, .name "x.jspf"]⟩ ∧
      target? (Path.ofText "/page.jsp") "../x.jspf" = some ⟨[.root, .up, .name "x.jspf"]⟩ ∧
      (joined? (Path.ofText "/page.jsp") "../x.jspf").map Path.lexical =
        some ⟨[.root, .name "x.jspf"]⟩ := by
  decide

end Include
end JspCompletion
