import JspCompletion.Proofs.Completion.Attributes
import JspCompletion.Proofs.Completion.Reach
import JspCompletion.Proofs.Include.Declared
import JspCompletion.Proofs.Markup.Loop
import JspCompletion.Proofs.Markup.TagEnd
import JspCompletion.Proofs.Session.Libraries

/-!
# Typing the name of a tag

Behind an opening bracket the tags of the declared libraries are offered.  The
main result says that each of them can be completed while its name is being
typed, in every state of every session, and that what was typed is replaced:
its library has to be bound to the namespace by the last declaration of its uri,
and what was typed must be an identifier.

Which declaration is the last is not a matter of the text alone.  The XML namespaces
come first wherever they stand, then the directives of the text, then those of
the files that it includes.

A dash or a dot is part of a tag name for the pass that classifies cursors, but
ends the identifier in front of the cursor.
-/

namespace JspCompletion

open Registry

/-! ## What was typed -/

namespace Markup

/-- A beginning of a tag name without a dash and a dot is an identifier. -/
theorem trailingIdentifier_tagWord
    (word : Grammar.TagWord)
    (noDash : '-' ∉ word.chars)
    (noDot : '.' ∉ word.chars) :
    trailingIdentifier word.chars = word.chars := by
  have allowed : ∀ char ∈ word.chars.reverse, isIdentifierChar char = true := by
    intro char member
    rw [List.mem_reverse] at member
    have notDash : char ≠ '-' := by
      rintro rfl
      exact noDash member
    have notDot : char ≠ '.' := by
      rintro rfl
      exact noDot member
    have named := word.isNameChar_of_mem char member
    simp only [Cursor.isNameChar, Bool.or_eq_true, beq_iff_eq, notDash, notDot, or_false] at named
    simp only [isIdentifierChar, Bool.or_eq_true, beq_iff_eq]
    tauto
  rw [trailingIdentifier, List.takeWhile_eq_self_iff.mpr allowed, List.reverse_reverse]
  simp [Grammar.TagWord.chars, word.letter]

end Markup

/-! ## Declared libraries -/

namespace Include

/-- A declared library has the namespace that its last declaration gives it. -/
theorem namespaceFor?_filterMap_declare?
    {declarations : List Markup.Declaration}
    {libraries : List TagLibrary}
    {library : TagLibrary}
    {space : String}
    (registered : library ∈ libraries)
    (bound : BindsLast declarations library.uri space) :
    namespaceFor? (libraries.filterMap (declare? declarations)) library.uri = some space := by
  have listed : (⟨space, library⟩ : DeclaredLibrary) ∈
      libraries.filterMap (declare? declarations) :=
    List.mem_filterMap.mpr ⟨library, registered, (declare?_eq_some_iff ..).mpr ⟨rfl, bound⟩⟩
  cases found : (libraries.filterMap (declare? declarations)).find? (·.library.uri == library.uri)
  with
  | none =>
      have absent := List.find?_eq_none.mp found _ listed
      simp at absent
  | some item =>
      have sameUri : item.library.uri = library.uri := by simpa using List.find?_some found
      obtain ⟨other, _, declared⟩ := List.mem_filterMap.mp (List.mem_of_find?_eq_some found)
      obtain ⟨same, boundItem⟩ := (declare?_eq_some_iff ..).mp declared
      rw [← same, sameUri, ← boundTo?_eq_some_iff] at boundItem
      rw [← boundTo?_eq_some_iff, boundItem] at bound
      rw [namespaceFor?, found]
      exact bound

end Include

namespace Workspace
namespace Attended

variable {first : Registry} {workspace : Workspace} {work : Work}

/-- Only variables may have a life that passes. -/
theorem allLive
    (attended : workspace.Attended first work)
    (foundation : first.IsFoundation)
    {kind : Kind}
    (notVariable : kind ≠ .var)
    (now : Time) :
    workspace.registry.AllLive kind now := by
  rintro ⟨id, entry⟩ member ofKind
  have sound := attended.shared.sound
  rw [attended.registry] at member
  have found := (sound.consistent.entry?_eq_some_iff id entry).mpr member
  have notMade : id ∉ work.made := by
    intro made
    rw [(attended.shared.exists_owned made found).1] at ofKind
    exact notVariable ofKind.symm
  simp [isExpired, attended.shared.static foundation notMade found]

/-- What is in scope does not touch the registry. -/
theorem declaredLibraries_eq
    (attended : workspace.Attended first work)
    (foundation : first.IsFoundation)
    (text : List Char)
    (file : Option Path) :
    let visible := (Include.declarations workspace.files workspace.now text file
      workspace.resolver).1
    (workspace.declaredLibraries text file).1 =
        workspace.registry.libraries.filterMap (Include.declare? visible) ∧
      (workspace.declaredLibraries text file).2.Attended first work := by
  have consistent : workspace.registry.Consistent := by
    rw [attended.registry]
    exact attended.shared.sound.consistent
  have read := Include.declaredLibraries_eq consistent
    (attended.allLive foundation (by decide) workspace.now) workspace.files text file
    workspace.resolver
  refine ⟨?_, attended.congr rfl ?_⟩
  · simp only [declaredLibraries, read]
  · simp only [declaredLibraries, read]

/-- Registered tags are found whatever the scanner does meanwhile. -/
theorem tag_mem_query
    (attended : workspace.Attended first work)
    (foundation : first.IsFoundation)
    {tag : LibraryTag}
    (registered : tag ∈ workspace.registry.tags) :
    .tag tag ∈ (workspace.query { kind := some .tag } true).1.map (·.2) := by
  obtain ⟨⟨id, entry⟩, member, isTag⟩ := List.mem_filterMap.mp registered
  have elementEq : entry.element = .tag tag := by
    cases element : entry.element <;> simp_all [Descriptor.tag?]
  rw [attended.registry] at member
  have consistent := attended.shared.sound.consistent
  have found := (consistent.entry?_eq_some_iff id entry).mpr member
  obtain ⟨later, attendedLater, keepsToItself⟩ := attended.broadcast foundation
  have notMade : id ∉ later.made := by
    intro made
    rcases keepsToItself.made_new id made with old | isNew
    · have ofKind := (attended.shared.exists_owned old found).1
      rw [elementEq] at ofKind
      cases ofKind
    · exact absurd (consistent.below _ member) (Nat.not_lt_of_le isNew)
  have consistentLater := attendedLater.shared.sound.consistent
  have memberLater : (id, entry) ∈ later.registry.entries := by
    rw [← keepsToItself.unchanged id notMade] at found
    exact (consistentLater.entry?_eq_some_iff id entry).mp found
  have live : workspace.broadcast.registry.AllLive .tag workspace.broadcast.now :=
    attendedLater.allLive foundation (by decide) _
  rw [attendedLater.registry] at live
  have queried := consistentLater.query_of_allLive live []
  change _ ∈ (workspace.broadcast.registry.query workspace.broadcast.now
    { kind := some .tag }).1.map (·.2)
  rw [attendedLater.registry, queried]
  refine List.mem_map.mpr ⟨(id, entry.element), List.mem_map.mpr ⟨(id, entry), ?_, rfl⟩, elementEq⟩
  rw [List.mem_filter, elementEq]
  exact ⟨memberLater, rfl⟩

end Attended
end Workspace

/-! ## Suggestions for tag names -/

/-- The label of a tag is its qualified name. -/
theorem LibraryTag.label_suggestion
    {tag : LibraryTag}
    {context : MatchContext}
    {space : String}
    (bound : namespaceFor? context.declared tag.uri = some space) :
    (tag.suggestion context).label = space ++ ":" ++ tag.name.text := by
  have nonempty : space ++ ":" ++ tag.name.text ≠ "" := by simp
  simp [suggestion, Suggestion.label, bound, qualified, qualifier, unlessEmpty, nonempty]

namespace Completion

/-- The cursor of a request stands at the end of its text, behind what was typed
of a tag name in template text. -/
structure InTagName (request : CompletionRequest) (front typed : List Char) : Prop where
  text : request.text = front ++ '<' :: typed
  atEnd : request.offset = Text.size request.text
  inText : Markup.classify front (Text.size front) = .text

namespace InTagName

variable {request : CompletionRequest} {front : List Char} {word : Markup.Grammar.TagWord}

theorem classify_eq
    (located : InTagName request front word.chars) :
    Markup.classify request.text request.offset = .tagName (Text.size front + 1) false := by
  have inText := located.inText
  have whole := Markup.classify_size request.text []
  have alone := Markup.classify_size front []
  rw [List.append_nil] at whole alone
  rw [alone] at inText
  rw [located.atEnd, whole, located.text, Markup.Cursor.run_append_tagWord inText]
  rfl

theorem since_eq
    (located : InTagName request front word.chars) :
    request.since (Text.size front + 1) = word.chars := by
  have split : request.text = (front ++ ['<']) ++ word.chars ++ [] := by simp [located.text]
  have start : Text.size front + 1 = Text.size (front ++ ['<']) := by simp; rfl
  have stop : request.offset = Text.size (front ++ ['<']) + Text.size word.chars := by
    rw [located.atEnd, located.text]
    simp only [Text.size_append, Text.size_cons, Text.size_nil]
    omega
  rw [CompletionRequest.since, start, stop, split, Text.slice_size_append]

/-- Of the registered tags those are offered that an identifier reaches. -/
theorem suggest_eq
    (located : InTagName request front word.chars)
    (manual : request.manual = true)
    (noDash : '-' ∉ word.chars)
    (noDot : '.' ∉ word.chars)
    (workspace : Workspace) :
    let seen := workspace.declaredLibraries request.beforeCursor request.file
    (suggest request workspace).1 =
      Descriptor.suggestReached
        { typed := String.ofList word.chars
          declared := seen.1
          tagCompletion := if Markup.isClosedBehind request.afterCursor then .nameOnly else .full }
        ((seen.2.query { kind := some .tag } true).1.map (·.2)) := by
  have typed := Markup.trailingIdentifier_tagWord word noDash noDot
  rw [suggest, located.classify_eq]
  simp only [ofTags, located.since_eq, typed, CompletionRequest.accepts, manual, Bool.true_or,
    Bool.not_true, Bool.false_eq_true, if_false]

end InTagName

/-- A registered tag is listed while its qualified name is being typed under the
namespace that the last declaration binds its library to. -/
theorem exists_mem_suggest
    {workspace : Workspace}
    {first : Registry}
    {work : Work}
    (attended : workspace.Attended first work)
    (foundation : first.IsFoundation)
    {request : CompletionRequest}
    {front space : List Char}
    {word : Markup.Grammar.TagWord}
    (located : InTagName request front word.chars)
    (manual : request.manual = true)
    (noDash : '-' ∉ word.chars)
    (noDot : '.' ∉ word.chars)
    {library : TagLibrary}
    {tag : LibraryTag}
    (registered : library ∈ workspace.registry.libraries)
    (owns : library.Owns tag)
    (bound : Include.BindsLast (Include.declarations workspace.files workspace.now
      request.beforeCursor request.file workspace.resolver).1 library.uri (String.ofList space))
    (ascii : Text.IsAscii (space ++ ':' :: tag.name.text.toList))
    (begun : word.chars <+: space ++ ':' :: tag.name.text.toList) :
    ∃ context : MatchContext,
      tag.suggestion context ∈ (suggest request workspace).1 ∧
        (tag.suggestion context).label = String.ofList (space ++ ':' :: tag.name.text.toList) ∧
        (tag.suggestion context).replaced = String.ofList word.chars := by
  obtain ⟨declaredEq, attendedAfter⟩ :=
    attended.declaredLibraries_eq foundation request.beforeCursor request.file
  let context : MatchContext :=
    { typed := String.ofList word.chars
      declared := (workspace.declaredLibraries request.beforeCursor request.file).1
      tagCompletion := if Markup.isClosedBehind request.afterCursor then .nameOnly else .full }
  have boundTo : namespaceFor? context.declared tag.uri = some (String.ofList space) := by
    simp only [context, declaredEq, owns.uri]
    exact Include.namespaceFor?_filterMap_declare? registered bound
  have reached : tag.isReached context = true := by
    simp only [LibraryTag.isReached, boundTo]
    exact Name.isReachedUnder_of_prefix ascii begun
  have inRegistry : tag ∈
      (workspace.declaredLibraries request.beforeCursor request.file).2.registry.tags := by
    rw [attendedAfter.registry, attended.shared.sound.views.2, ← attended.registry]
    exact List.mem_flatMap.mpr ⟨library, registered, owns.listed⟩
  have found := attendedAfter.tag_mem_query foundation inRegistry
  refine ⟨context, ?_, ?_, rfl⟩
  · rw [located.suggest_eq manual noDash noDot]
    exact List.mem_map.mpr ⟨.tag tag, List.mem_filter.mpr ⟨found, reached⟩, rfl⟩
  · rw [LibraryTag.label_suggestion boundTo]
    apply String.toList_injective
    simp

/-- What is offered at the end of a text where the sample library is known: labels
with what they replace. -/
def offered (text : String) : List (String × String) :=
  (suggest { text := text.toList, offset := Text.size text.toList, manual := true }
    sampleWorkspace).1.map fun suggestion => (suggestion.label, suggestion.replaced)

/-- A page that declares the sample library, and then includes a file. -/
def samplePage : CompletionRequest :=
  let text := "<%@ taglib prefix=\"a\" uri=\"u\" %><%@ include file=\"i\" %><a:s".toList
  { text, offset := Text.size text, file := some ⟨[.root, .name "p"]⟩, manual := true }

/-- A workspace that knows the library, with the file, in which the library has another
namespace. -/
def sampleSite : Workspace :=
  let file : File := { content := some "<%@ taglib prefix=\"b\" uri=\"u\" %>", modified := 0 }
  { sampleWorkspace with files := { files := [(⟨[.root, .name "i"]⟩, file)] } }

theorem declaredLibraries_samplePage :
    ∃ resolver, sampleSite.declaredLibraries samplePage.beforeCursor samplePage.file =
      ([⟨"b", sampleLibrary⟩], { sampleSite with resolver }) := by
  let included : Include.Included := ⟨⟨[.root, .name "i"]⟩, ⟨[⟨"b", "u"⟩], [], []⟩⟩
  have scanned : Markup.scan samplePage.beforeCursor = ⟨[⟨"a", "u"⟩], [], ["i"]⟩ := by
    decide +kernel
  have leads : Include.target? ⟨[.root, .name "p"]⟩ "i" = some included.path := by
    decide +kernel
  have found : sampleSite.files.scan? included.path = some included.scan := by
    decide +kernel
  have lists : Include.Lists sampleSite.files [⟨[.root, .name "p"]⟩] ⟨[.root, .name "p"]⟩
      (Markup.scan samplePage.beforeCursor).includes [included] := by
    rw [scanned]
    exact .enter leads (by decide) found .nil .nil
  have consistent : sampleSite.registry.Consistent :=
    consistent_run [⟨0, .importLibrary sampleLibrary⟩]
  have live : sampleSite.registry.AllLive .library sampleSite.now := by
    unfold AllLive
    decide +kernel
  have upToDate : sampleSite.resolver.UpToDate sampleSite.files sampleSite.now :=
    Include.Resolver.upToDate_of_cache_eq_nil rfl
  have declared := Include.declaredLibraries_of_lists rfl upToDate consistent live lists
  have read := Include.declaredLibraries_eq consistent live sampleSite.files
    samplePage.beforeCursor samplePage.file sampleSite.resolver
  have onlyDeclared : sampleSite.registry.libraries.filterMap
      (Include.declare? (Include.inOrder ⟨[⟨"a", "u"⟩], [], ["i"]⟩ [included])) =
        [⟨"b", sampleLibrary⟩] := by
    decide +kernel
  rw [scanned, onlyDeclared] at declared
  refine ⟨(sampleSite.declaredLibraries samplePage.beforeCursor samplePage.file).2.resolver,
    Prod.ext declared ?_⟩
  simp only [Workspace.declaredLibraries, read]

/-- The directive of the included file is the last one. -/
theorem suggest_samplePage : (suggest samplePage sampleSite).1 = [] := by
  have located : InTagName samplePage (samplePage.text.take 55)
      (Markup.Grammar.TagWord.chars ⟨'a', rfl, [':', 's'], List.all_eq_true.mp rfl⟩) :=
    ⟨by decide +kernel, by decide +kernel, by decide +kernel⟩
  obtain ⟨resolver, seen⟩ := declaredLibraries_samplePage
  have found : ({ sampleSite with resolver }.query { kind := some .tag } true).1 =
      (sampleSite.query { kind := some .tag } true).1 :=
    rfl
  rw [located.suggest_eq rfl (by decide) (by decide), seen]
  dsimp only
  rw [found]
  decide +kernel

/-- A dash ends what is replaced, and behind it the tag may be missing.  A namespace
offers nothing where its uri is bound to another one later: by a directive of the
text, even if it stands in front of an XML namespace, or by one of an included
file. -/
theorem visible_tags_are_missed :
    offered "<%@ taglib prefix=\"my-a\" uri=\"u\" %><my-" = [("my-a:show", "")] ∧
      offered "<%@ taglib prefix=\"my-a\" uri=\"u\" %><my-a:" = [] ∧
      offered "<%@ taglib prefix=\"a\" uri=\"u\" %><%@ taglib prefix=\"b\" uri=\"u\" %><a:s" =
        [] ∧
      offered "<%@ taglib prefix=\"a\" uri=\"u\" %><x xmlns:b=\"u\"><b:s" = [] ∧
      (suggest samplePage sampleSite).1 = [] :=
  ⟨by decide +kernel, by decide +kernel, by decide +kernel, by decide +kernel, suggest_samplePage⟩

end Completion

/-! ## Sessions -/

namespace Session

/-- In every state of a session, every tag of a registered library that the text
up to the cursor binds to a namespace, by the last declaration of its uri, is
listed while its qualified name is being typed in template text, and replaces what
was typed, as long as that is an identifier.  Namespace and name consist of
characters of tag names, and the namespace begins with a letter.  The declarations
are in order: the XML namespaces of the text, its directives, and the directives of
the files that it includes. -/
theorem visible_tags_are_listed
    (now : Time)
    (files : FileTree)
    (home : String)
    (extraSources : List String)
    (hasClient : Bool)
    (events : List Event)
    (workspace : Workspace)
    (reached : workspace = ((start now files home extraSources hasClient).run events).workspace)
    (library : TagLibrary)
    (registered : library ∈ workspace.registry.libraries)
    (tag : LibraryTag)
    (listed : tag ∈ library.tags)
    (request : CompletionRequest)
    (front space typed : List Char)
    (located : Completion.InTagName request front typed)
    (scan : Markup.FileScan)
    (scanned : scan = Markup.scan request.beforeCursor)
    (bound : Include.BindsLast (Include.inOrder scan (Include.includedFiles workspace.files
      workspace.now scan.includes request.file workspace.resolver).1) library.uri
      (String.ofList space))
    (letter : ∃ first ∈ space.head?, first.isAlpha = true)
    (named : ∀ char ∈ space ++ tag.name.text.toList, Markup.Cursor.isNameChar char = true)
    (nonempty : typed ≠ [])
    (begun : typed <+: space ++ ':' :: tag.name.text.toList)
    (identifier : '-' ∉ typed ∧ '.' ∉ typed)
    (manual : request.manual = true) :
    ∃ context : MatchContext,
      tag.suggestion context ∈ (Completion.suggest request workspace).1 ∧
        (tag.suggestion context).label = String.ofList (space ++ ':' :: tag.name.text.toList) ∧
        (tag.suggestion context).replaced = String.ofList typed := by
  obtain ⟨all, made, -⟩ := Builtin.exists_descriptors
  have foundation := isFoundation_firstRegistry made now
  obtain ⟨work, attended⟩ := attended_run
    (attended_start now files home extraSources hasClient foundation) foundation events
  rw [← reached] at attended
  have owns : library.Owns tag := by
    rw [reached] at registered
    obtain ⟨_, _, parsed⟩ :=
      isRead_of_registered now files home extraSources hasClient events library registered
    exact Tld.owns_of_parse parsed tag listed
  rw [scanned] at bound
  have allNamed : ∀ char ∈ space ++ ':' :: tag.name.text.toList,
      Markup.Cursor.isNameChar char = true :=
    Markup.forall_mem_qualified rfl named
  have ascii : Text.IsAscii (space ++ ':' :: tag.name.text.toList) := by
    intro char member
    by_contra high
    have allowed := allNamed char member
    rw [Markup.Loop.isNameChar_of_high (Nat.le_of_not_lt high)] at allowed
    cases allowed
  obtain ⟨word, rfl⟩ : ∃ word : Markup.Grammar.TagWord, word.chars = typed := by
    obtain ⟨first, typed, rfl⟩ := List.exists_cons_of_ne_nil nonempty
    obtain ⟨initial, isInitial, isLetter⟩ := letter
    obtain ⟨others, rfl⟩ := List.head?_eq_some_iff.mp isInitial
    rw [List.cons_append, List.cons_prefix_cons] at begun
    obtain ⟨rfl, isFront⟩ := begun
    refine ⟨⟨first, isLetter, typed, ?_⟩, rfl⟩
    intro char member
    exact allNamed char (List.mem_cons_of_mem first (isFront.subset member))
  exact Completion.exists_mem_suggest attended foundation located manual identifier.1 identifier.2
    registered owns bound ascii begun

/-- A descriptor of one tag. -/
def sampleDescriptor : FileTree :=
  { files :=
      [ (⟨[.root, .name "t.tld"]⟩,
          { content := some ("<taglib><short-name>t</short-name><uri>u</uri>" ++
              "<tag><name>show</name></tag></taglib>")
            modified := 0 }) ] }

/-- A session that has read the descriptor offers its tag behind `<a:s`. -/
theorem sampleTag_is_listed :
    let workspace := ((start 0 sampleDescriptor "/" ["/t.tld"] false).run [.reload]).workspace
    let request : CompletionRequest :=
      { text := Completion.sampleFront ++ '<' :: "a:s".toList
        offset := Text.size (Completion.sampleFront ++ '<' :: "a:s".toList)
        manual := true }
    ∃ library ∈ workspace.registry.libraries, library.uri = "u" ∧
      ∃ tag ∈ library.tags, ∃ context : MatchContext,
        tag.suggestion context ∈ (Completion.suggest request workspace).1 ∧
          (tag.suggestion context).label = "a:show" ∧
          (tag.suggestion context).replaced = "a:s" := by
  intro workspace request
  obtain ⟨library, registered, sameUri, tag, listed, tagName⟩ :
      ∃ library ∈ workspace.registry.libraries, library.uri = "u" ∧
        ∃ tag ∈ library.tags, tag.name.text = "show" := by
    decide +kernel
  have located : Completion.InTagName request Completion.sampleFront "a:s".toList :=
    ⟨rfl, rfl, by decide +kernel⟩
  have bound : Include.BindsLast (Include.inOrder (Markup.scan request.beforeCursor)
      (Include.includedFiles workspace.files workspace.now
        (Markup.scan request.beforeCursor).includes request.file workspace.resolver).1)
      library.uri "a" := by
    rw [sameUri]
    exact (Include.boundTo?_eq_some_iff ..).mp (by decide +kernel)
  obtain ⟨context, isListed, label, replaced⟩ :=
    visible_tags_are_listed 0 sampleDescriptor "/" ["/t.tld"] false [.reload] workspace rfl library
      registered tag listed request Completion.sampleFront "a".toList "a:s".toList located _ rfl
      bound ⟨'a', rfl, rfl⟩ (by rw [tagName]; exact List.all_eq_true.mp (by decide)) (by decide)
      (by rw [tagName]; decide) (by decide) rfl
  rw [tagName] at label
  exact ⟨library, registered, sameUri, tag, listed, context, isListed, label, replaced⟩

end Session
end JspCompletion
