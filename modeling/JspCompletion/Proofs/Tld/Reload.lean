import JspCompletion.Proofs.Registry.Stocked
import JspCompletion.Tld.Load

/-!
# Loading again

Loading imports the libraries of a list of files one after the other, each time
removing what has the same uri, and in the end drops the libraries that were
there before and still are.  On the shelf of a stocked registry this leaves
exactly the libraries of the files, each uri once and from the last file that
has it: what was there before goes, either because a file provides its uri or
because none does.

Therefore loading does not depend on what was loaded, imported or removed
earlier, nor on whatever else the registry holds.
-/

namespace JspCompletion

open Registry

/-- The libraries of a list without those whose uri comes again. -/
def lastOfEachUri : List TagLibrary → List TagLibrary
  | [] => []
  | library :: rest =>
      if library.uri ∈ rest.map (·.uri) then lastOfEachUri rest
      else library :: lastOfEachUri rest

/-- What is left is what is followed by no library with the same uri. -/
theorem mem_lastOfEachUri_iff
    (libraries : List TagLibrary)
    (library : TagLibrary) :
    library ∈ lastOfEachUri libraries ↔
      ∃ front back, libraries = front ++ library :: back ∧
        ∀ other ∈ back, other.uri ≠ library.uri := by
  induction libraries with
  | nil => simp [lastOfEachUri]
  | cons first rest inductionHypothesis =>
      have later : (∃ front back, first :: rest = front ++ library :: back ∧
          ∀ other ∈ back, other.uri ≠ library.uri) ↔
            (library = first ∧ first.uri ∉ rest.map (·.uri)) ∨ library ∈ lastOfEachUri rest := by
        rw [inductionHypothesis]
        constructor
        · rintro ⟨front, back, split, last⟩
          cases front with
          | nil =>
              obtain ⟨rfl, rfl⟩ := List.cons.inj split
              exact Or.inl ⟨rfl, by simpa using last⟩
          | cons _ front =>
              obtain ⟨-, rfl⟩ := List.cons.inj split
              exact Or.inr ⟨front, back, rfl, last⟩
        · rintro (⟨rfl, last⟩ | ⟨front, back, rfl, last⟩)
          · exact ⟨[], rest, rfl, by simpa using last⟩
          · exact ⟨first :: front, back, rfl, last⟩
      rw [later, lastOfEachUri]
      split
      · rename_i again
        simp [again]
      · rename_i last
        simp [last]

theorem uri_mem_of_mem_lastOfEachUri
    {libraries : List TagLibrary}
    {library : TagLibrary}
    (listed : library ∈ lastOfEachUri libraries) :
    library.uri ∈ libraries.map (·.uri) := by
  obtain ⟨front, back, rfl, -⟩ := (mem_lastOfEachUri_iff ..).mp listed
  simp

namespace Registry

/-- Import the libraries of a list one after the other. -/
def importAll (registry : Registry) (now : Time) (libraries : List TagLibrary) : Registry :=
  libraries.foldl (fun registry library => (registry.importLibrary now library).2) registry

namespace Stocked

variable {registry : Registry}

theorem importAll
    (stocked : registry.Stocked)
    (now : Time)
    (libraries : List TagLibrary) :
    (registry.importAll now libraries).Stocked := by
  induction libraries generalizing registry with
  | nil => exact stocked
  | cons library rest inductionHypothesis =>
      exact inductionHypothesis (stocked.importLibrary now library)

theorem spares_importAll
    (stocked : registry.Stocked)
    (now : Time)
    (libraries : List TagLibrary) :
    Spares registry (registry.importAll now libraries) := by
  induction libraries generalizing registry with
  | nil => exact stocked.consistent.spares_self
  | cons library rest inductionHypothesis =>
      exact (stocked.spares_importLibrary now library).trans
        (inductionHypothesis (stocked.importLibrary now library))

/-- What has a uri of the list goes, and the list stands at the end, each uri
once. -/
theorem shelf_importAll
    (stocked : registry.Stocked)
    (now : Time)
    (libraries : List TagLibrary) :
    (registry.importAll now libraries).shelf =
      registry.shelf.filter (·.1 ∉ libraries.map (·.uri)) ++
        (lastOfEachUri libraries).flatMap fun library =>
          library.descriptors.map (library.uri, ·) := by
  induction libraries generalizing registry with
  | nil => simp [Registry.importAll, lastOfEachUri]
  | cons library rest inductionHypothesis =>
      have ofRest := inductionHypothesis (stocked.importLibrary now library)
      have both (item : String × Descriptor) :
          (Decidable.decide (item.1 ∉ rest.map (·.uri)) && Decidable.decide (item.1 ≠ library.uri)) =
            Decidable.decide (item.1 ∉ (library :: rest).map (·.uri)) := by
        rw [Bool.eq_iff_iff]
        simp [and_comm]
      change ((registry.importLibrary now library).2.importAll now rest).shelf = _
      rw [ofRest, stocked.shelf_importLibrary, List.filter_append, List.filter_filter,
        List.append_assoc, lastOfEachUri]
      simp only [both]
      congr 1
      -- The group that was put at the end has one uri, so it goes or stays as a whole.
      by_cases again : library.uri ∈ rest.map (·.uri)
      · have gone : (library.descriptors.map (library.uri, ·)).filter
            (·.1 ∉ rest.map (·.uri)) = [] := by
          rw [List.filter_eq_nil_iff]
          intro item listed
          obtain ⟨descriptor, -, rfl⟩ := List.mem_map.mp listed
          simpa using again
        rw [if_pos again, gone, List.nil_append]
      · have kept : (library.descriptors.map (library.uri, ·)).filter
            (·.1 ∉ rest.map (·.uri)) = library.descriptors.map (library.uri, ·) := by
          rw [List.filter_eq_self]
          intro item listed
          obtain ⟨descriptor, -, rfl⟩ := List.mem_map.mp listed
          exact decide_eq_true again
        rw [if_neg again, kept, List.flatMap_cons]

/-- Without what has an earlier uri that is not in the list, only the list is
left. -/
theorem filter_shelf_importAll
    (stocked : registry.Stocked)
    (now : Time)
    (libraries : List TagLibrary)
    {dropped : List String}
    (isDropped : ∀ uri, uri ∈ dropped ↔
      uri ∈ registry.libraries.map (·.uri) ∧ uri ∉ libraries.map (·.uri)) :
    (registry.importAll now libraries).shelf.filter (·.1 ∉ dropped) =
      (lastOfEachUri libraries).flatMap fun library =>
        library.descriptors.map (library.uri, ·) := by
  have oldGone : (registry.shelf.filter (·.1 ∉ libraries.map (·.uri))).filter
      (·.1 ∉ dropped) = [] := by
    rw [List.filter_eq_nil_iff]
    intro item listed
    obtain ⟨onShelf, notListed⟩ := List.mem_filter.mp listed
    rw [decide_eq_true_eq, not_not, isDropped]
    exact ⟨uri_mem_libraries onShelf, of_decide_eq_true notListed⟩
  have newKept : ((lastOfEachUri libraries).flatMap fun library =>
      library.descriptors.map (library.uri, ·)).filter (·.1 ∉ dropped) =
      (lastOfEachUri libraries).flatMap fun library =>
        library.descriptors.map (library.uri, ·) := by
    rw [List.filter_eq_self]
    intro item listed
    obtain ⟨library, isLeft, inGroup⟩ := List.mem_flatMap.mp listed
    obtain ⟨descriptor, -, rfl⟩ := List.mem_map.mp inGroup
    rw [decide_eq_true_eq, isDropped]
    exact fun isGone => isGone.2 (uri_mem_of_mem_lastOfEachUri isLeft)
  rw [stocked.shelf_importAll, List.filter_append, oldGone, newKept, List.nil_append]

/-- A library that was there is still there unless the list has its uri. -/
theorem uriOf?_importAll
    (stocked : registry.Stocked)
    (now : Time)
    (libraries : List TagLibrary)
    {id : EntryId}
    (known : id.value < registry.nextId) :
    (registry.importAll now libraries).uriOf? id =
      (registry.uriOf? id).filter (· ∉ libraries.map (·.uri)) := by
  induction libraries generalizing registry with
  | nil => cases ofUri : registry.uriOf? id <;> simp [Registry.importAll, ofUri, Option.filter]
  | cons library rest inductionHypothesis =>
      have spares := stocked.spares_importLibrary now library
      change ((registry.importLibrary now library).2.importAll now rest).uriOf? id = _
      rw [inductionHypothesis (stocked.importLibrary now library)
          (Nat.lt_of_lt_of_le known spares.nextId_le),
        stocked.uriOf?_importLibrary now library known]
      cases registry.uriOf? id with
      | none => rfl
      | some uri => by_cases same : uri = library.uri <;> simp [same, Option.filter]

end Stocked
end Registry

namespace Tld

/-! ## Files -/

/-- Why a file has no library. -/
def failure? (file : ParsedFile) : Option Error :=
  match file.2 with
  | .ok _ => none
  | .error failure => some failure

/-- The libraries of a list of files, in their order. -/
def provided (files : List ParsedFile) : List TagLibrary :=
  files.filterMap (·.2.toOption)

/-- The files with a library and its uri, in their order. -/
def usable (files : List ParsedFile) : List (String × String) :=
  files.filterMap fun file => file.2.toOption.map fun library => (file.1, library.uri)

/-- Files are imported and reported one by one. -/
theorem foldl_loadFile
    (now : Time)
    (files : List ParsedFile)
    (report : LoadReport)
    (registry : Registry) :
    files.foldl (loadFile now) (report, registry) =
      ({ report with
          loaded := report.loaded ++ usable files
          failures := report.failures ++ files.filterMap failure? },
        registry.importAll now (provided files)) := by
  induction files generalizing report registry with
  | nil => simp [usable, provided, importAll]
  | cons file rest inductionHypothesis =>
      obtain ⟨path, content⟩ := file
      rw [List.foldl_cons]
      cases content with
      | ok library =>
          have noFailure : failure? (path, .ok library) = none := rfl
          rw [loadFile, inductionHypothesis, List.filterMap_cons_none noFailure]
          simp [usable, provided, importAll, Except.toOption]
      | error failure =>
          have isFailure : failure? (path, .error failure) = some failure := rfl
          rw [loadFile, inductionHypothesis, List.filterMap_cons_some isFailure]
          simp [usable, provided, importAll, Except.toOption]

/-- Dropping the earlier libraries that are still there. -/
theorem foldl_dropPrevious
    {registry : Registry}
    (stocked : registry.Stocked)
    (previous : List EntryId)
    (nodup : previous.Nodup)
    (areLibraries : ∀ id ∈ previous, ∀ entry, registry.entry? id = some entry →
      ∃ library, entry.element = .library library)
    (report : LoadReport) :
    let dropped := previous.filterMap registry.uriOf?
    let state := previous.foldl dropPrevious (report, registry)
    state.1 = { report with removed := report.removed ++ dropped } ∧
      state.2.Stocked ∧ Spares registry state.2 ∧
      state.2.shelf = registry.shelf.filter (·.1 ∉ dropped) := by
  induction previous generalizing registry report with
  | nil => simp [stocked, stocked.consistent.spares_self]
  | cons id rest inductionHypothesis =>
      obtain ⟨new, nodupRest⟩ := List.nodup_cons.mp nodup
      have restLibraries := fun other listed => areLibraries other (List.mem_cons_of_mem id listed)
      cases found : registry.entry? id with
      | none =>
          have passed : dropPrevious (report, registry) id = (report, registry) := by
            simp [dropPrevious, remove, found]
          have noUri : registry.uriOf? id = none := by
            simp [uriOf?, found]
          rw [List.foldl_cons, passed, List.filterMap_cons_none noUri]
          exact inductionHypothesis stocked nodupRest restLibraries report
      | some entry =>
          obtain ⟨library, isLibrary⟩ := areLibraries id List.mem_cons_self entry found
          have ofUri : registry.uriOf? id = some library.uri :=
            (uriOf?_eq_some_iff ..).mpr ⟨entry, library, found, isLibrary, rfl⟩
          have isRoot := stocked.mem_singleton_iff ofUri
          have dropped : dropPrevious (report, registry) id =
              ({ report with removed := report.removed ++ [library.uri] },
                registry.removeAll [id]) := by
            simp [dropPrevious, remove, found, isLibrary]
          have spares := stocked.consistent.spares_removeAll fun root listed =>
            ⟨library.uri, (isRoot root).mp listed⟩
          -- No later library has the uri, so each is there as before.
          have sameUris : rest.filterMap (registry.removeAll [id]).uriOf? =
              rest.filterMap registry.uriOf? := by
            apply List.filterMap_congr
            intro other listed
            rw [stocked.uriOf?_removeAll isRoot]
            cases otherUri : registry.uriOf? other with
            | none => rfl
            | some uri =>
                have differs : uri ≠ library.uri := by
                  rintro rfl
                  exact new (stocked.eq_of_uriOf? otherUri ofUri ▸ listed)
                simp [differs, Option.filter]
          have stillLibraries : ∀ other ∈ rest, ∀ entry,
              Registry.entry? (registry.removeAll [id]) other = some entry →
                ∃ library, entry.element = .library library := by
            intro other listed entry otherFound
            exact restLibraries other listed entry
              (stocked.consistent.entry?_of_entry?_removeAll otherFound)
          obtain ⟨reportEq, stockedRest, sparesRest, shelfEq⟩ :=
            inductionHypothesis (stocked.removeAll [id]) nodupRest stillLibraries
              { report with removed := report.removed ++ [library.uri] }
          rw [List.foldl_cons, dropped, List.filterMap_cons_some ofUri]
          refine ⟨?_, stockedRest, spares.trans sparesRest, ?_⟩
          · rw [reportEq, sameUris, List.append_assoc]
            rfl
          · rw [shelfEq, sameUris, stocked.shelf_removeAll isRoot, List.filter_filter]
            apply List.filter_congr
            intro item _
            rw [Bool.eq_iff_iff]
            simp [and_comm]

/-! ## Loading -/

/-- Loading imports all that the files provide, and drops the libraries that were
there. -/
theorem load_eq
    {registry : Registry}
    (stocked : registry.Stocked)
    (now : Time)
    (files : List ParsedFile) :
    load registry now files =
      (registry.ofKind .library).foldl dropPrevious
        ({ loaded := usable files, failures := files.filterMap failure? },
          registry.importAll now (provided files)) := by
  obtain ⟨previousEq, queriedEq⟩ := stocked.query_libraries now
  have queryEq : registry.query now { kind := some .library } =
      ((registry.query now { kind := some .library }).1, registry) := Prod.ext rfl queriedEq
  rw [load, queryEq]
  simp only [foldl_loadFile, previousEq, List.nil_append]

/-- What loading does to a stocked registry. -/
theorem load_of_stocked
    {registry : Registry}
    (stocked : registry.Stocked)
    (now : Time)
    (files : List ParsedFile) :
    (load registry now files).1 =
        { loaded := usable files
          failures := files.filterMap failure?
          removed :=
            (registry.libraries.map (·.uri)).filter (· ∉ (provided files).map (·.uri)) } ∧
      (load registry now files).2.libraryDescriptors =
        (lastOfEachUri (provided files)).flatMap TagLibrary.descriptors ∧
      Spares registry (load registry now files).2 := by
  let uris := (provided files).map (·.uri)
  let dropped := (registry.libraries.map (·.uri)).filter (· ∉ uris)
  have isDropped (uri : String) : uri ∈ dropped ↔
      uri ∈ registry.libraries.map (·.uri) ∧ uri ∉ uris := by
    simp only [dropped, List.mem_filter, decide_eq_true_eq]
  have stockedAll := stocked.importAll now (provided files)
  have sparesAll := stocked.spares_importAll now (provided files)
  have known : ∀ id ∈ registry.ofKind .library, id.value < registry.nextId ∧
      ∃ entry library, registry.entry? id = some entry ∧ entry.element = .library library := by
    intro id listed
    obtain ⟨entry, found, isLibrary⟩ := (stocked.consistent.mem_ofKind_iff .library id).mp listed
    obtain ⟨library, elementEq⟩ := Descriptor.exists_library_of_kind isLibrary
    exact ⟨stocked.consistent.below _ (mem_of_entry?_eq_some found), entry, library, found,
      elementEq⟩
  have nodup : (registry.ofKind .library).Nodup :=
    stocked.consistent.candidates_nodup { kind := some .library }
  obtain ⟨reportEq, stockedAfter, sparesAfter, shelfEq⟩ :=
    foldl_dropPrevious stockedAll (registry.ofKind .library) nodup (by
      intro id listed entry found
      obtain ⟨below, old, library, oldFound, isLibrary⟩ := known id listed
      rw [sparesAll.known id entry below found, Option.some.injEq] at oldFound
      exact ⟨library, oldFound ▸ isLibrary⟩)
      { loaded := usable files, failures := files.filterMap failure? }
  have droppedEq : (registry.ofKind .library).filterMap
      (registry.importAll now (provided files)).uriOf? = dropped := by
    simp only [dropped]
    rw [← stocked.consistent.filterMap_uriOf?_ofKind, List.filter_filterMap]
    apply List.filterMap_congr
    intro id listed
    exact stocked.uriOf?_importAll now (provided files) (known id listed).1
  rw [load_eq stocked]
  refine ⟨?_, ?_, sparesAll.trans sparesAfter⟩
  · rw [reportEq, droppedEq]
    rfl
  · rw [← stockedAfter.map_shelf, shelfEq, droppedEq,
      stocked.filter_shelf_importAll now (provided files) isDropped, List.map_flatMap]
    simp [Function.comp_def]

/-- Two files for one of the libraries, and one that fails. -/
def sampleFiles : List ParsedFile :=
  let name : Name := ⟨"new", by decide⟩
  let library (text : String) : TagLibrary :=
    { name, uri := "a", fullName := text, description := "", functions := [], tags := [] }
  [ ("1.tld", .ok (library "first")),
    ("2.tld", .error (.malformed "2.tld")),
    ("3.tld", .ok (library "second")) ]

end Tld
end JspCompletion
