import JspCompletion.Proofs.Include.Crawl
import JspCompletion.Proofs.Registry.Query
import JspCompletion.Proofs.Registry.Run

/-!
# The libraries that a page sees

The main result says what a page sees when no scans are kept: the registered
libraries whose uri is declared by the page, or by a directive of a reachable
file, each bound to what its last declaration says.  Which files are reachable
is said by chains of includes, and which declaration is the last by the order
of the listing.

Nothing is said here about kept scans; what they may change is bounded
elsewhere.
-/

namespace JspCompletion
namespace Include

/-- The uri is declared by the page itself, or by a directive of a reachable
file. -/
def Declares
    (files : FileTree)
    (page : Path)
    (scan : Markup.FileScan)
    (uri : String) : Prop :=
  (∃ declaration ∈ scan.namespaces ++ scan.directives, declaration.uri = uri) ∨
    ∃ path found, Reaches files page scan.includes path found ∧
      ∃ declaration ∈ found.directives, declaration.uri = uri

/-- The last declaration of a uri binds it to a namespace. -/
def BindsLast
    (declarations : List Markup.Declaration)
    (uri space : String) : Prop :=
  ∃ earlier last later, declarations = earlier ++ last :: later ∧
    last.uri = uri ∧ last.boundTo = space ∧ ∀ other ∈ later, other.uri ≠ uri

/-- The declarations of a page: its XML namespaces, its directives, then those
of the listed files. -/
def inOrder
    (scan : Markup.FileScan)
    (listed : List Included) : List Markup.Declaration :=
  scan.namespaces ++ scan.directives ++ listed.flatMap (·.scan.directives)

/-- A library with the namespace that its last declaration gives it. -/
def declare?
    (declarations : List Markup.Declaration)
    (library : TagLibrary) : Option DeclaredLibrary :=
  (boundTo? declarations library.uri).map fun space => { boundTo := space, library }

/-! ## The last declaration -/

/-- The namespace of a uri is that of its last declaration. -/
theorem boundTo?_eq_some_iff
    (declarations : List Markup.Declaration)
    (uri space : String) :
    boundTo? declarations uri = some space ↔ BindsLast declarations uri space := by
  simp only [boundTo?, Option.map_eq_some_iff, List.find?_eq_some_iff_append, beq_iff_eq]
  constructor
  · rintro ⟨last, ⟨sameUri, later, earlier, splits, others⟩, rfl⟩
    refine ⟨earlier.reverse, last, later.reverse, ?_, sameUri, rfl, ?_⟩
    · rw [← List.reverse_reverse declarations, splits]
      simp
    · intro other member
      simpa using others other (List.mem_reverse.mp member)
  · rintro ⟨earlier, last, later, rfl, sameUri, rfl, others⟩
    refine ⟨last, ⟨sameUri, later.reverse, earlier.reverse, by simp, ?_⟩, rfl⟩
    intro other member
    simpa using others other (List.mem_reverse.mp member)

/-- A uri has a namespace exactly if it is declared. -/
theorem boundTo?_ne_none_iff
    (declarations : List Markup.Declaration)
    (uri : String) :
    boundTo? declarations uri ≠ none ↔
      ∃ declaration ∈ declarations, declaration.uri = uri := by
  simp [boundTo?, Option.map_eq_none_iff, List.find?_eq_none]

theorem declare?_eq_some_iff
    (declarations : List Markup.Declaration)
    (library : TagLibrary)
    (item : DeclaredLibrary) :
    declare? declarations library = some item ↔
      item.library = library ∧ BindsLast declarations library.uri item.boundTo := by
  rw [← boundTo?_eq_some_iff, declare?, Option.map_eq_some_iff]
  constructor
  · rintro ⟨space, bound, rfl⟩
    exact ⟨rfl, bound⟩
  · rintro ⟨rfl, bound⟩
    exact ⟨item.boundTo, bound, rfl⟩

theorem declare?_ne_none_iff
    (declarations : List Markup.Declaration)
    (library : TagLibrary) :
    declare? declarations library ≠ none ↔
      ∃ declaration ∈ declarations, declaration.uri = library.uri := by
  rw [← boundTo?_ne_none_iff, declare?, ne_eq, Option.map_eq_none_iff]

/-! ## What a page sees -/

/-- The libraries among the entries that a query for uris selects are the
registered ones with such a uri. -/
theorem filterMap_selected
    (entries : List (EntryId × Entry))
    (uris : List String)
    (use : TagLibrary → Option DeclaredLibrary)
    (used : ∀ library, use library ≠ none → library.uri ∈ uris) :
    ((entries.filter fun item =>
        item.2.element.kind == .library &&
          [{ property := "uri", values := uris : FilterRule }].all
            (·.accepts item.2.element)).map fun item => (item.1, item.2.element)).filterMap
        (·.2.library?.bind use) =
      (entries.filterMap (·.2.element.library?)).filterMap use := by
  rw [List.filterMap_map, List.filterMap_filter, List.filterMap_filterMap]
  apply List.filterMap_congr
  rintro ⟨id, element, lifetime, lastChanged, owner⟩ _
  cases element with
  | library library =>
      have property : (Descriptor.library library).property? "uri" = some library.uri := rfl
      have accepts : ({ property := "uri", values := uris : FilterRule }.accepts
          (.library library)) = uris.contains library.uri := by
        simp [FilterRule.accepts, property]
      by_cases listed : library.uri ∈ uris
      · simp [accepts, listed, Descriptor.kind]
      · have unused : use library = none := by
          by_contra isUsed
          exact listed (used library isUsed)
        simp [accepts, listed, unused, Descriptor.library?]
  | _ => simp [Descriptor.kind, Descriptor.library?]

/-- A page sees the registered libraries that are declared, and reading them
leaves the registry as it is. -/
theorem declaredLibraries_eq
    {registry : Registry}
    {now : Time}
    (consistent : registry.Consistent)
    (live : registry.AllLive .library now)
    (files : FileTree)
    (text : List Char)
    (file : Option Path)
    (resolver : Resolver) :
    declaredLibraries files now text file resolver registry =
      let (visible, after) := declarations files now text file resolver
      (registry.libraries.filterMap (declare? visible), after, registry) := by
  rw [declaredLibraries]
  rcases declarations files now text file resolver with ⟨visible, after⟩
  have declaredUri (library : TagLibrary) (used : declare? visible library ≠ none) :
      library.uri ∈ visible.map (·.uri) := by
    rw [List.mem_map]
    exact (declare?_ne_none_iff visible library).mp used
  cases visible with
  | nil =>
      have nothing : registry.libraries.filterMap (declare? []) = [] := by
        rw [List.filterMap_eq_nil_iff]
        intro library _
        rfl
      simp [nothing]
  | cons first rest =>
      simp only [consistent.query_of_allLive live, List.isEmpty_cons, Bool.false_eq_true,
        if_false, Prod.mk.injEq, and_true]
      rw [Registry.libraries, ← filterMap_selected registry.entries _ _ declaredUri]
      apply List.filterMap_congr
      rintro ⟨id, element⟩ _
      cases element <;> rfl

/-- The libraries that are declared among registered ones. -/
theorem map_library_filterMap_declare?
    (declarations : List Markup.Declaration)
    (libraries : List TagLibrary) :
    (libraries.filterMap (declare? declarations)).map (·.library) =
      libraries.filter fun library => (declare? declarations library).isSome := by
  rw [List.map_filterMap, ← List.filterMap_eq_filter]
  apply List.filterMap_congr
  intro library _
  cases declaredEq : declare? declarations library with
  | none => simp [Option.guard, declaredEq]
  | some item =>
      have same := ((declare?_eq_some_iff declarations library item).mp declaredEq).1
      simp [Option.guard, declaredEq, same]

/-- The declarations of a page and its listed files declare the uris that the
page and the reachable files declare. -/
theorem exists_mem_inOrder_iff
    {files : FileTree}
    {page : Path}
    {scan : Markup.FileScan}
    {listed : List Included}
    (lists : Lists files [page] page scan.includes listed)
    (uri : String) :
    (∃ declaration ∈ inOrder scan listed, declaration.uri = uri) ↔
      Declares files page scan uri := by
  constructor
  · rintro ⟨declaration, member, sameUri⟩
    rcases List.mem_append.mp member with own | included
    · exact Or.inl ⟨declaration, own, sameUri⟩
    · obtain ⟨item, itemListed, directive⟩ := List.mem_flatMap.mp included
      have reaches := (lists.mem_iff_reaches item).mp itemListed
      exact Or.inr ⟨item.path, item.scan, reaches, declaration, directive, sameUri⟩
  · rintro (⟨declaration, own, sameUri⟩ | ⟨path, found, reaches, declaration, directive, sameUri⟩)
    · exact ⟨declaration, List.mem_append_left _ own, sameUri⟩
    · have itemListed := (lists.mem_iff_reaches ⟨path, found⟩).mpr reaches
      refine ⟨declaration, List.mem_append_right _ ?_, sameUri⟩
      exact List.mem_flatMap.mpr ⟨_, itemListed, directive⟩

/-- Where kept scans are up to date, a page sees what the declarations of its
listing say. -/
theorem declaredLibraries_of_lists
    {files : FileTree}
    {now : Time}
    {resolver : Resolver}
    (inMemory : files.access = .exact)
    (upToDate : resolver.UpToDate files now)
    {registry : Registry}
    (consistent : registry.Consistent)
    (live : registry.AllLive .library now)
    {text : List Char}
    {page : Path}
    {listed : List Included}
    (lists : Lists files [page] page (Markup.scan text).includes listed) :
    (declaredLibraries files now text (some page) resolver registry).1 =
      registry.libraries.filterMap (declare? (inOrder (Markup.scan text) listed)) := by
  have crawled := upToDate.lists_includedFiles inMemory page (Markup.scan text).includes
  rw [declaredLibraries_eq consistent live, lists.unique crawled]
  rfl

/-- With no scans kept, a page sees the live registered libraries that it or a
reachable file declares, in the order of the registry and once each, bound to
what the last declaration says.  The order of declarations is that of the one
listing of the page; an include that leads nowhere changes no listing, on the
page or in any other file, and so changes nothing that the page sees. -/
theorem sees_exactly_declared_libraries
    (files : FileTree)
    (inMemory : files.access = .exact)
    (now : Time)
    (text : List Char)
    (page : Path)
    (resolver : Resolver)
    (nothingKept : resolver.cache = [])
    (steps : List Registry.Step)
    (registry : Registry)
    (built : registry = Registry.run {} steps)
    (live : registry.AllLive .library now)
    (distinct : (registry.libraries.map (·.uri)).Nodup) :
    let scan := Markup.scan text
    let declared := (declaredLibraries files now text (some page) resolver registry).1
    ∃ listed,
      (∀ other, Lists files [page] page scan.includes other ↔ other = listed) ∧
      (declared.map (·.library)).Sublist registry.libraries ∧
      (declared.map (·.library.uri)).Nodup ∧
      (∀ library, library ∈ declared.map (·.library) ↔
        library ∈ registry.libraries ∧ Declares files page scan library.uri) ∧
      (∀ item ∈ declared, BindsLast (inOrder scan listed) item.library.uri item.boundTo) ∧
      (∀ trace file front failing back, LeadsNowhere files file failing →
        ∀ other, Lists files trace file (front ++ failing :: back) other ↔
          Lists files trace file (front ++ back) other) ∧
      (∀ front failing back, LeadsNowhere files page failing →
        scan.includes = front ++ failing :: back →
        ∀ shorter, Markup.scan shorter = { scan with includes := front ++ back } →
          (declaredLibraries files now shorter (some page) resolver registry).1 = declared) := by
  intro scan declared
  have consistent : registry.Consistent := by
    rw [built]
    exact Registry.consistent_run steps
  have upToDate : resolver.UpToDate files now :=
    Resolver.upToDate_of_cache_eq_nil nothingKept
  obtain ⟨listed, lists⟩ : ∃ listed, Lists files [page] page scan.includes listed :=
    ⟨_, upToDate.lists_includedFiles inMemory page scan.includes⟩
  have declaredEq : declared = registry.libraries.filterMap (declare? (inOrder scan listed)) :=
    declaredLibraries_of_lists inMemory upToDate consistent live lists
  have chosen := map_library_filterMap_declare? (inOrder scan listed) registry.libraries
  rw [← declaredEq] at chosen
  have sublist : (declared.map (·.library)).Sublist registry.libraries := by
    rw [chosen]
    exact List.filter_sublist
  refine ⟨listed, ?_, sublist, ?_, ?_, ?_, ?_, ?_⟩
  · intro other
    constructor
    · intro otherLists
      exact otherLists.unique lists
    · rintro rfl
      exact lists
  · have distinctDeclared := distinct.sublist (sublist.map (·.uri))
    rwa [List.map_map] at distinctDeclared
  · intro library
    rw [chosen, List.mem_filter, Option.isSome_iff_ne_none, declare?_ne_none_iff,
      exists_mem_inOrder_iff lists]
  · intro item member
    rw [declaredEq, List.mem_filterMap] at member
    obtain ⟨library, _, itemEq⟩ := member
    obtain ⟨rfl, bound⟩ := (declare?_eq_some_iff _ library item).mp itemEq
    exact bound
  · intro trace file front failing back nowhere other
    exact Lists.leave_out_iff nowhere other
  · intro front failing back nowhere includesEq shorter shorterEq
    have shorterLists : Lists files [page] page (Markup.scan shorter).includes listed := by
      rw [shorterEq, ← Lists.leave_out_iff nowhere, ← includesEq]
      exact lists
    rw [declaredLibraries_of_lists inMemory upToDate consistent live shorterLists, shorterEq,
      declaredEq]
    rfl

/-- Two files that include each other; the second declares a library. -/
def sampleFiles : FileTree :=
  { files :=
      [ (⟨[.root, .name "a"]⟩,
          { content := some "<%@ include file=\"b\" %>"
            modified := 0 }),
        (⟨[.root, .name "b"]⟩,
          { content := some "<%@ include file=\"a\" %><%@ taglib prefix=\"c\" uri=\"core\" %>"
            modified := 0 }) ] }

/-- A page that includes a missing file, then the first of the two. -/
def sampleText : List Char :=
  "<%@ include file=\"gone\" %><%@ include file=\"a\" %>".toList

/-- The library that the second file declares, without content. -/
def sampleLibrary : TagLibrary :=
  { name := ⟨"c", by decide⟩
    uri := "core"
    fullName := ""
    description := ""
    functions := []
    tags := [] }

/-- The library is registered. -/
def sampleSteps : List Registry.Step :=
  [{ now := 0, operation := .add (.library sampleLibrary) none none }]

/-- The page sees the library that is declared two includes away, past a file
that is not there and in spite of the cycle. -/
theorem sampleText_sees_sampleLibrary :
    let registry := Registry.run {} sampleSteps
    let declared :=
      (declaredLibraries sampleFiles 0 sampleText (some ⟨[.root, .name "p"]⟩) {} registry).1
    sampleFiles.access = .exact ∧ registry.AllLive .library 0 ∧
      (registry.libraries.map (·.uri)).Nodup ∧ (declared.map (·.library.uri)).Nodup ∧
      sampleLibrary ∈ declared.map (·.library) := by
  intro registry declared
  have live : registry.AllLive .library 0 := by
    unfold Registry.AllLive
    decide
  have distinct : (registry.libraries.map (·.uri)).Nodup := by decide
  obtain ⟨_, _, _, once, exactly, _⟩ :=
    sees_exactly_declared_libraries sampleFiles rfl 0 sampleText ⟨[.root, .name "p"]⟩ {} rfl
      sampleSteps registry rfl live distinct
  refine ⟨rfl, live, distinct, once, (exactly sampleLibrary).mpr ⟨by decide, Or.inr ?_⟩⟩
  refine ⟨⟨[.root, .name "b"]⟩, ⟨[⟨"c", "core"⟩], [], ["a"]⟩, ?_, ⟨"c", "core"⟩, by decide, rfl⟩
  have first : Step sampleFiles ⟨[.root, .name "p"]⟩ (Markup.scan sampleText).includes
      ⟨[.root, .name "a"]⟩ ⟨[], [], ["b"]⟩ :=
    ⟨⟨"a", by decide, by decide⟩, by decide⟩
  have second : Step sampleFiles ⟨[.root, .name "a"]⟩ ["b"]
      ⟨[.root, .name "b"]⟩ ⟨[⟨"c", "core"⟩], [], ["a"]⟩ :=
    ⟨⟨"b", by decide, by decide⟩, by decide⟩
  exact Reaches.through (Reaches.direct first (by decide)) second (by decide)

end Include
end JspCompletion
