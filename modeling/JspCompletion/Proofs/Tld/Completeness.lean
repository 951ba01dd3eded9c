import JspCompletion.Tld.Library
import JspCompletion.Proofs.Text.Blank
import Mathlib.Data.List.Forall2

/-!
# Complete descriptors

A document is turned into a library exactly if it is complete: names and the uri
are there and not blank, and signatures can be read.  What has to hold is written
down as a list of requirements in the order in which they count.  Converting a
document means checking them one after the other, so the error is that of the first
one that is not met.

The library of a complete document has its functions, tags and attributes in the
order of their elements, each with what its element says about it, and all refer
back to where they belong.
-/

namespace JspCompletion

namespace Tld

/-! ## Requirements -/

/-- What has to hold of a document, and the error if it does not. -/
structure Requirement where
  /-- It holds. -/
  met : Bool
  /-- The error if it does not. -/
  failure : Error

/-- The error of the first requirement that is not met. -/
def firstUnmet? (requirements : List Requirement) : Option Error :=
  (requirements.find? (!·.met)).map (·.failure)

theorem firstUnmet?_append (left right : List Requirement) :
    firstUnmet? (left ++ right) = (firstUnmet? left).or (firstUnmet? right) := by
  unfold firstUnmet?
  rw [List.find?_append]
  cases left.find? (!·.met) <;> rfl

theorem firstUnmet?_eq_none_iff (requirements : List Requirement) :
    firstUnmet? requirements = none ↔ ∀ requirement ∈ requirements, requirement.met = true := by
  simp [firstUnmet?]

theorem firstUnmet?_eq_some_iff (requirements : List Requirement) (failure : Error) :
    firstUnmet? requirements = some failure ↔
      ∃ front requirement back, requirements = front ++ requirement :: back ∧
        (∀ earlier ∈ front, earlier.met = true) ∧ requirement.met = false ∧
          requirement.failure = failure := by
  simp only [firstUnmet?, Option.map_eq_some_iff, List.find?_eq_some_iff_append]
  constructor
  · rintro ⟨requirement, ⟨unmet, front, back, split, met⟩, isFailure⟩
    exact ⟨front, requirement, back, split, by simpa using met, by simpa using unmet, isFailure⟩
  · rintro ⟨front, requirement, back, split, met, unmet, isFailure⟩
    exact ⟨requirement, ⟨by simpa using unmet, front, back, split, by simpa using met⟩, isFailure⟩

/-- The result checks requirements in their order: the first one that is not met is
the error, and if all are met there is a value for which something holds. -/
def Checks (requirements : List Requirement) (result : Except Error α) (holds : α → Prop) : Prop :=
  match firstUnmet? requirements with
  | some failure => result = .error failure
  | none => ∃ value, result = .ok value ∧ holds value

namespace Checks

variable {α β : Type} {requirements left right : List Requirement} {result : Except Error α}
  {holds : α → Prop}

theorem of_ok {value : α} (holding : holds value) : Checks [] (.ok value) holds :=
  ⟨value, rfl, holding⟩

theorem cons_of_met
    {requirement : Requirement}
    (met : requirement.met = true)
    (checks : Checks requirements result holds) :
    Checks (requirement :: requirements) result holds := by
  unfold Checks firstUnmet? at *
  rwa [List.find?_cons_of_neg (by simp [met])]

theorem cons_of_unmet
    {requirement : Requirement}
    (unmet : requirement.met = false)
    (failed : result = .error requirement.failure) :
    Checks (requirement :: requirements) result holds := by
  unfold Checks firstUnmet?
  rwa [List.find?_cons_of_pos (by simp [unmet])]

theorem imp
    {holdsToo : α → Prop}
    (checks : Checks requirements result holds)
    (implies : ∀ value, holds value → holdsToo value) :
    Checks requirements result holdsToo := by
  unfold Checks at *
  cases unmet : firstUnmet? requirements with
  | some failure =>
      rw [unmet] at checks
      exact checks
  | none =>
      rw [unmet] at checks
      obtain ⟨value, isOk, holding⟩ := checks
      exact ⟨value, isOk, implies value holding⟩

/-- Checking goes on with what the first part gives. -/
theorem bind
    {next : α → Except Error β}
    {holdsNext : β → Prop}
    (first : Checks left result holds)
    (goesOn : ∀ value, holds value → Checks right (next value) holdsNext) :
    Checks (left ++ right) (result >>= next) holdsNext := by
  unfold Checks at first ⊢
  rw [firstUnmet?_append]
  cases unmet : firstUnmet? left with
  | some failure =>
      rw [unmet] at first
      rw [first]
      rfl
  | none =>
      rw [unmet] at first
      obtain ⟨value, isOk, holding⟩ := first
      rw [isOk]
      exact goesOn value holding

/-- The last part of a conversion checks nothing more. -/
theorem map
    {finish : α → β}
    {holdsNext : β → Prop}
    (first : Checks requirements result holds)
    (finished : ∀ value, holds value → holdsNext (finish value)) :
    Checks requirements (result >>= fun value => pure (finish value)) holdsNext := by
  have whole : Checks (requirements ++ []) (result >>= fun value => pure (finish value))
      holdsNext :=
    first.bind fun value holding => of_ok (finished value holding)
  rwa [List.append_nil] at whole

/-- The items of a list are checked one after the other. -/
theorem mapM
    {convert : α → Except Error β}
    {needs : α → List Requirement}
    {describes : α → β → Prop}
    (each : ∀ item, Checks (needs item) (convert item) (describes item))
    (items : List α) :
    Checks (items.flatMap needs) (items.mapM convert) (List.Forall₂ describes items) := by
  induction items with
  | nil => exact of_ok List.Forall₂.nil
  | cons item rest inductionHypothesis =>
      rw [List.mapM_cons, List.flatMap_cons]
      exact (each item).bind fun value described =>
        inductionHypothesis.map fun values others => List.Forall₂.cons described others

/-- A conversion succeeds exactly if every requirement is met. -/
theorem exists_ok_iff (checks : Checks requirements result holds) :
    (∃ value, result = .ok value) ↔ ∀ requirement ∈ requirements, requirement.met = true := by
  rw [← firstUnmet?_eq_none_iff]
  unfold Checks at checks
  cases unmet : firstUnmet? requirements with
  | some failure =>
      rw [unmet] at checks
      simp [checks]
  | none =>
      rw [unmet] at checks
      obtain ⟨value, isOk, -⟩ := checks
      simp [isOk]

theorem eq_error_iff (checks : Checks requirements result holds) (failure : Error) :
    result = .error failure ↔ firstUnmet? requirements = some failure := by
  unfold Checks at checks
  cases unmet : firstUnmet? requirements with
  | some first =>
      rw [unmet] at checks
      simp [checks]
  | none =>
      rw [unmet] at checks
      obtain ⟨value, isOk, -⟩ := checks
      simp [isOk]

theorem holds_of_ok
    (checks : Checks requirements result holds)
    {value : α}
    (isOk : result = .ok value) :
    holds value := by
  unfold Checks at checks
  cases unmet : firstUnmet? requirements with
  | some failure =>
      rw [unmet] at checks
      rw [checks] at isOk
      cases isOk
  | none =>
      rw [unmet] at checks
      obtain ⟨other, isOther, holding⟩ := checks
      rw [isOther] at isOk
      cases isOk
      exact holding

end Checks

/-! ## What has to hold -/

/-- A text is there and not blank. -/
def isGiven : Option String → Bool
  | some text => !Text.allBlank text
  | none => false

/-- A name has to be there and must not be blank. -/
def nameRequirements (path : String) (name : Option String) : List Requirement :=
  [⟨name.isSome, .missing path "name"⟩, ⟨isGiven name, .invalid path .emptyName⟩]

/-- What has to hold of an attribute. -/
def AttributeEntry.requirements (path : String) (entry : AttributeEntry) : List Requirement :=
  nameRequirements path entry.name

/-- What has to hold of a tag: first its name, then its attributes. -/
def TagEntry.requirements (path : String) (entry : TagEntry) : List Requirement :=
  nameRequirements path entry.name ++
    entry.attributes.flatMap (AttributeEntry.requirements path)

/-- What has to hold of a function: whether its name is blank counts last. -/
def FunctionEntry.requirements (path : String) (entry : FunctionEntry) : List Requirement :=
  [⟨entry.name.isSome, .missing path "name"⟩,
    ⟨entry.signature.isSome, .missing path "function-signature"⟩,
    ⟨(entry.signature.bind Signature.ofText?).isSome,
      .signature path (entry.signature.getD "")⟩,
    ⟨isGiven entry.name, .invalid path .emptyName⟩]

/-- What has to hold of a document: first its short name and its uri, then its
functions, and then its tags. -/
def Document.requirements (path : String) (document : Document) : List Requirement :=
  [⟨document.shortName.isSome, .missing path "short-name"⟩,
    ⟨document.uri.isSome, .missing path "uri"⟩,
    ⟨isGiven document.shortName, .invalid path .emptyName⟩,
    ⟨isGiven document.uri,
      .invalid path (.emptyUri (Text.trimmed (document.shortName.getD "")))⟩] ++
    document.functions.flatMap (FunctionEntry.requirements path) ++
      document.tags.flatMap (TagEntry.requirements path)

/-- The function has a name and a signature that can be read. -/
structure FunctionEntry.IsComplete (entry : FunctionEntry) : Prop where
  name : isGiven entry.name = true
  signature : ∃ text, entry.signature = some text ∧ (Signature.ofText? text).isSome = true

/-- The tag has a name, and so has each of its attributes. -/
structure TagEntry.IsComplete (entry : TagEntry) : Prop where
  name : isGiven entry.name = true
  attributes : ∀ attr ∈ entry.attributes, isGiven attr.name = true

/-- The document has a short name and a uri, and its functions and tags are
complete. -/
structure Document.IsComplete (document : Document) : Prop where
  shortName : isGiven document.shortName = true
  uri : isGiven document.uri = true
  functions : ∀ entry ∈ document.functions, entry.IsComplete
  tags : ∀ entry ∈ document.tags, entry.IsComplete

theorem isSome_of_isGiven
    {text? : Option String}
    (given : isGiven text? = true) :
    text?.isSome = true := by
  cases text? with
  | none => cases given
  | some text => rfl

theorem forall_nameRequirements_iff (path : String) (name : Option String) :
    (∀ requirement ∈ nameRequirements path name, requirement.met = true) ↔
      isGiven name = true := by
  simp only [nameRequirements, List.forall_mem_cons, List.not_mem_nil, false_implies,
    implies_true, and_true]
  exact and_iff_right_of_imp isSome_of_isGiven

namespace FunctionEntry

theorem forall_requirements_iff (path : String) (entry : FunctionEntry) :
    (∀ requirement ∈ entry.requirements path, requirement.met = true) ↔ entry.IsComplete := by
  simp only [requirements, List.forall_mem_cons, List.not_mem_nil, false_implies,
    implies_true, and_true]
  constructor
  · rintro ⟨-, present, readable, given⟩
    obtain ⟨text, isText⟩ := Option.isSome_iff_exists.mp present
    rw [isText] at readable
    exact ⟨given, text, isText, readable⟩
  · rintro ⟨given, text, isText, readable⟩
    rw [isText]
    exact ⟨isSome_of_isGiven given, rfl, readable, given⟩

end FunctionEntry

namespace TagEntry

theorem forall_requirements_iff (path : String) (entry : TagEntry) :
    (∀ requirement ∈ entry.requirements path, requirement.met = true) ↔ entry.IsComplete := by
  simp only [requirements, List.forall_mem_append, forall_nameRequirements_iff,
    List.forall_mem_flatMap, AttributeEntry.requirements]
  exact ⟨fun complete => ⟨complete.1, complete.2⟩, fun complete =>
    ⟨complete.name, complete.attributes⟩⟩

end TagEntry

namespace Document

theorem forall_requirements_iff (path : String) (document : Document) :
    (∀ requirement ∈ document.requirements path, requirement.met = true) ↔
      document.IsComplete := by
  simp only [requirements, List.forall_mem_append, List.forall_mem_flatMap,
    FunctionEntry.forall_requirements_iff, TagEntry.forall_requirements_iff, List.forall_mem_cons,
    List.not_mem_nil, false_implies, implies_true, and_true]
  constructor
  · rintro ⟨⟨⟨-, -, shortName, uri⟩, functions⟩, tags⟩
    exact ⟨shortName, uri, functions, tags⟩
  · rintro ⟨shortName, uri, functions, tags⟩
    exact ⟨⟨⟨isSome_of_isGiven shortName, isSome_of_isGiven uri, shortName, uri⟩, functions⟩, tags⟩

end Document

/-! ## What the library has -/

/-- The attribute is what its element says, and refers to its tag. -/
structure AttributeEntry.Describes
    (tagName : String)
    (entry : AttributeEntry)
    (attr : TagAttribute) : Prop where
  name : entry.name.map Text.trimmed = some attr.name.text
  tagName : attr.tagName = tagName
  description : attr.description = Text.trimmed (firstOf entry.descriptions)
  typeName : attr.typeName = Text.trimmed (entry.typeName.getD "")
  shortType : attr.shortType = TypeName.short (Text.trimmed (entry.typeName.getD ""))
  required : attr.required = isSet entry.required
  dynamic : attr.dynamic = isSet entry.dynamic

/-- The tag is what its element says, refers to its library, and has its attributes
in order. -/
structure TagEntry.Describes (uri : String) (entry : TagEntry) (tag : LibraryTag) : Prop where
  name : entry.name.map Text.trimmed = some tag.name.text
  uri : tag.uri = uri
  className : tag.className = Text.trimmed (entry.className.getD "")
  description : tag.description = Text.trimmed (firstOf entry.descriptions)
  content : tag.content = Text.trimmed (entry.content.getD "")
  attributes : List.Forall₂ (AttributeEntry.Describes tag.name.text) entry.attributes tag.attributes

/-- The function is what its element says, with the types that its signature gives,
and refers to its library. -/
structure FunctionEntry.Describes
    (uri : String)
    (entry : FunctionEntry)
    (function : LibraryFunction) : Prop where
  name : entry.name.map Text.trimmed = some function.name.text
  uri : function.uri = uri
  className : function.className = Text.trimmed (entry.className.getD "")
  signature : function.signature = Text.trimmed (entry.signature.getD "")
  usage : function.usage = Text.trimmed (entry.usage.getD "")
  description : function.description = Text.trimmed (firstOf entry.descriptions)
  types : ∃ parsed, entry.signature.bind Signature.ofText? = some parsed ∧
    function.returnType = Text.trimmed parsed.returnType ∧
    function.shortReturnType = TypeName.short (Text.trimmed parsed.returnType) ∧
    function.argumentTypes = parsed.argumentTypes

/-- The library is what the document says, and has its functions and tags in
order. -/
structure Document.Describes (document : Document) (library : TagLibrary) : Prop where
  name : document.shortName.map Text.trimmed = some library.name.text
  uri : document.uri.map Text.trimmed = some library.uri
  fullName : library.fullName = Text.trimmed (document.displayName.getD "")
  description : library.description = Text.trimmed (firstOf document.descriptions)
  functions : List.Forall₂ (FunctionEntry.Describes library.uri) document.functions
    library.functions
  tags : List.Forall₂ (TagEntry.Describes library.uri) document.tags library.tags

/-- Every tag of the library refers to it. -/
theorem Document.Describes.uri_of_mem_tags
    {document : Document}
    {library : TagLibrary}
    (described : document.Describes library) :
    ∀ tag ∈ library.tags, tag.uri = library.uri := by
  have tags := described.tags
  generalize document.tags = entries, library.tags = found at tags ⊢
  induction tags with
  | nil => exact List.forall_mem_nil _
  | cons first _ inductionHypothesis =>
      rw [List.forall_mem_cons]
      exact ⟨first.uri, inductionHypothesis⟩

/-! ## Conversion -/

variable {α : Type}

theorem checks_demand (path field : String) (value? : Option α) :
    Checks [⟨value?.isSome, .missing path field⟩] (demand path field value?)
      (value? = some ·) := by
  cases value? with
  | none => exact Checks.cons_of_unmet rfl rfl
  | some value => exact Checks.cons_of_met rfl (Checks.of_ok rfl)

/-- A text gives its trimmed form as a name, unless it is blank. -/
theorem ofText_cases (raw : String) :
    (Text.allBlank raw = true ∧ Name.ofText raw = .error .emptyName) ∨
      (Text.allBlank raw = false ∧
        ∃ name : Name, name.text = Text.trimmed raw ∧ Name.ofText raw = .ok name) := by
  unfold Name.ofText
  cases found : Name.ofText? raw with
  | none =>
      exact Or.inl ⟨(Text.trimmed_eq_empty_iff raw).mp (Name.ofText?_eq_none_iff.mp found), rfl⟩
  | some name =>
      refine Or.inr ⟨?_, name, Name.text_of_ofText? found, rfl⟩
      rw [← Bool.not_eq_true, ← Text.trimmed_eq_empty_iff, ← Name.ofText?_eq_none_iff, found]
      exact Option.some_ne_none name

/-- Whatever is made with a name checks that the name is not blank. -/
theorem checks_named (path raw : String) (make : Name → α) :
    Checks [⟨!Text.allBlank raw, .invalid path .emptyName⟩]
      (checked path (Name.ofText raw >>= fun name => pure (make name)))
      (fun value => ∃ name : Name, name.text = Text.trimmed raw ∧ value = make name) := by
  rcases ofText_cases raw with ⟨blank, failed⟩ | ⟨notBlank, name, trimmed, isOk⟩
  · rw [blank, failed]
    exact Checks.cons_of_unmet rfl rfl
  · rw [notBlank, isOk]
    exact Checks.cons_of_met rfl (Checks.of_ok ⟨name, trimmed, rfl⟩)

namespace AttributeEntry

theorem checks_toAttribute (path : String) (entry : AttributeEntry) :
    Checks (entry.requirements path) (entry.toAttribute path) (entry.Describes "") := by
  refine (checks_demand path "name" entry.name).bind fun raw isRaw => ?_
  rw [isRaw]
  refine (checks_named path raw _).imp ?_
  rintro attr ⟨name, trimmed, rfl⟩
  exact
    { name := by rw [isRaw, trimmed]; rfl
      tagName := rfl
      description := rfl
      typeName := rfl
      shortType := rfl
      required := rfl
      dynamic := rfl }

/-- An attribute that is attached to a tag refers to it. -/
theorem Describes.attached
    {entry : AttributeEntry}
    {attr : TagAttribute}
    (described : entry.Describes "" attr)
    (tagName : String) :
    entry.Describes tagName { attr with tagName } :=
  { described with tagName := rfl }

end AttributeEntry

namespace FunctionEntry

theorem checks_toFunction (path : String) (entry : FunctionEntry) :
    Checks (entry.requirements path) (entry.toFunction path) (entry.Describes "") := by
  refine (checks_demand path "name" entry.name).bind fun raw isRaw => ?_
  refine (checks_demand path "function-signature" entry.signature).bind fun text isText => ?_
  rw [isRaw, isText]
  have bound : (some text).bind Signature.ofText? = Signature.ofText? text := rfl
  rw [bound]
  cases parsed : Signature.ofText? text with
  | none => exact Checks.cons_of_unmet rfl rfl
  | some signature =>
      refine Checks.cons_of_met rfl ((checks_named path raw _).imp ?_)
      rintro function ⟨name, trimmed, rfl⟩
      exact
        { name := by rw [isRaw, trimmed]; rfl
          uri := rfl
          className := rfl
          signature := by rw [isText]; rfl
          usage := rfl
          description := rfl
          types := ⟨signature, by rw [isText, bound, parsed], rfl, rfl, rfl⟩ }

/-- A function that is attached to a library refers to it. -/
theorem Describes.attached
    {entry : FunctionEntry}
    {function : LibraryFunction}
    (described : entry.Describes "" function)
    (uri : String) :
    entry.Describes uri { function with uri } :=
  { described with uri := rfl }

end FunctionEntry

end Tld

theorem LibraryTag.foldl_addAttribute (tag : LibraryTag) (added : List TagAttribute) :
    added.foldl addAttribute tag =
      { tag with
        attributes :=
          tag.attributes ++ added.map fun attr => { attr with tagName := tag.name.text } } := by
  induction added generalizing tag with
  | nil => simp
  | cons attr added inductionHypothesis =>
      rw [List.foldl_cons, inductionHypothesis]
      simp [addAttribute]

theorem TagLibrary.foldl_addFunction (library : TagLibrary) (added : List LibraryFunction) :
    added.foldl addFunction library =
      { library with
        functions :=
          library.functions ++ added.map fun function => { function with uri := library.uri } } := by
  induction added generalizing library with
  | nil => simp
  | cons function added inductionHypothesis =>
      rw [List.foldl_cons, inductionHypothesis]
      simp [addFunction]

theorem TagLibrary.foldl_addTag (library : TagLibrary) (added : List LibraryTag) :
    added.foldl addTag library =
      { library with
        tags := library.tags ++ added.map fun tag => { tag with uri := library.uri } } := by
  induction added generalizing library with
  | nil => simp
  | cons tag added inductionHypothesis =>
      rw [List.foldl_cons, inductionHypothesis]
      simp [addTag]

namespace Tld

namespace TagEntry

theorem checks_toTag (path : String) (entry : TagEntry) :
    Checks (entry.requirements path) (entry.toTag path) (entry.Describes "") := by
  refine (checks_demand path "name" entry.name).bind fun raw isRaw => ?_
  rw [isRaw]
  refine (checks_named path raw _).bind ?_
  rintro tag ⟨name, trimmed, rfl⟩
  refine (Checks.mapM (AttributeEntry.checks_toAttribute path) entry.attributes).map ?_
  intro attributes found
  rw [LibraryTag.foldl_addAttribute]
  exact
    { name := by rw [isRaw, trimmed]; rfl
      uri := rfl
      className := rfl
      description := rfl
      content := rfl
      attributes := List.forall₂_map_right_iff.mpr
        (found.imp fun _ _ described => described.attached name.text) }

/-- A tag that is attached to a library refers to it. -/
theorem Describes.attached
    {entry : TagEntry}
    {tag : LibraryTag}
    (described : entry.Describes "" tag)
    (uri : String) :
    entry.Describes uri { tag with uri } :=
  { described with uri := rfl }

end TagEntry

/-- An empty library checks its short name first and then its uri. -/
theorem checks_make (path shortName uri fullName description : String) :
    Checks
      [⟨!Text.allBlank shortName, .invalid path .emptyName⟩,
        ⟨!Text.allBlank uri, .invalid path (.emptyUri (Text.trimmed shortName))⟩]
      (checked path (TagLibrary.make shortName uri fullName description))
      (fun library => ∃ name : Name, name.text = Text.trimmed shortName ∧
        library =
          { name
            uri := Text.trimmed uri
            fullName := Text.trimmed fullName
            description := Text.trimmed description
            functions := []
            tags := [] }) := by
  unfold TagLibrary.make
  rcases ofText_cases shortName with ⟨blank, failed⟩ | ⟨notBlank, name, trimmed, isOk⟩
  · rw [blank, failed]
    exact Checks.cons_of_unmet rfl rfl
  · rw [notBlank, isOk]
    refine Checks.cons_of_met rfl ?_
    by_cases noUri : Text.trimmed uri = ""
    · rw [(Text.trimmed_eq_empty_iff uri).mp noUri, ← trimmed]
      refine Checks.cons_of_unmet rfl ?_
      simp only [noUri]
      rfl
    · have given : Text.allBlank uri = false := by
        rw [← Bool.not_eq_true, ← Text.trimmed_eq_empty_iff]
        exact noUri
      rw [given]
      refine Checks.cons_of_met rfl ?_
      simp only [noUri]
      exact Checks.of_ok ⟨name, trimmed, rfl⟩

namespace Document

theorem checks_toLibrary (path : String) (document : Document) :
    Checks (document.requirements path) (document.toLibrary path) document.Describes := by
  refine (checks_demand path "short-name" document.shortName).bind fun shortName isShortName => ?_
  refine (checks_demand path "uri" document.uri).bind fun uri isUri => ?_
  rw [isShortName, isUri]
  refine (checks_make path shortName uri _ _).bind ?_
  rintro library ⟨name, trimmed, rfl⟩
  refine (Checks.mapM (FunctionEntry.checks_toFunction path) document.functions).bind ?_
  intro functions functionsFound
  refine (Checks.mapM (TagEntry.checks_toTag path) document.tags).map ?_
  intro tags tagsFound
  rw [TagLibrary.foldl_addFunction, TagLibrary.foldl_addTag]
  exact
    { name := by rw [isShortName, trimmed]; rfl
      uri := by rw [isUri]; rfl
      fullName := rfl
      description := rfl
      functions := List.forall₂_map_right_iff.mpr
        (functionsFound.imp fun _ _ described => described.attached _)
      tags := List.forall₂_map_right_iff.mpr
        (tagsFound.imp fun _ _ described => described.attached _) }

end Document

/-- Where a text is read as a document, it gives a library exactly if the document is
complete, and otherwise the error of the first requirement that is not met; and the
library is what the document says. -/
theorem parse_succeeds_exactly_on_complete
    (path text : String)
    {document : Document}
    (isRead : Document.ofText? text = some document) :
    ((∃ library, parse path text = .ok library) ↔ document.IsComplete) ∧
      (∀ failure, parse path text = .error failure ↔
        ∃ front requirement back, document.requirements path = front ++ requirement :: back ∧
          (∀ earlier ∈ front, earlier.met = true) ∧ requirement.met = false ∧
            requirement.failure = failure) ∧
      ∀ library, parse path text = .ok library → document.Describes library := by
  have parseEq : parse path text = document.toLibrary path := by
    rw [parse, isRead]
  have checks := document.checks_toLibrary path
  rw [parseEq]
  refine ⟨?_, fun failure => ?_, fun library => checks.holds_of_ok⟩
  · rw [checks.exists_ok_iff, document.forall_requirements_iff]
  · rw [checks.eq_error_iff, firstUnmet?_eq_some_iff]

/-- A library with a tag that has an attribute, as a file holds it. -/
def completeText : String :=
  "<t><short-name>t</short-name><uri>u</uri><tag><name>g</name>" ++
    "<attribute><name>a</name><type>int</type></attribute></tag></t>"

/-- The elements of the library. -/
def completeDocument : Document :=
  { displayName := none
    shortName := some "t"
    uri := some "u"
    descriptions := []
    functions := []
    tags :=
      [{ name := some "g"
         className := none
         content := none
         descriptions := []
         attributes :=
          [{ name := some "a"
             descriptions := []
             typeName := some "int"
             required := none
             dynamic := none }] }] }

/-- A library with a function whose name is blank and whose signature cannot be
read. -/
def faultyText : String :=
  "<t><short-name>t</short-name><uri>u</uri><function><name> </name>" ++
    "<function-signature>f</function-signature></function></t>"

/-- The elements of the faulty library. -/
def faultyDocument : Document :=
  { displayName := none
    shortName := some "t"
    uri := some "u"
    descriptions := []
    functions :=
      [{ name := some ""
         className := none
         signature := some "f"
         usage := none
         descriptions := [] }]
    tags := [] }

/-- The first text gives a library; of the two faults in the second one, the
signature counts. -/
theorem completeText_and_faultyText_parse :
    Document.ofText? completeText = some completeDocument ∧
      (∃ library, parse "t.tld" completeText = .ok library ∧
        completeDocument.Describes library) ∧
      Document.ofText? faultyText = some faultyDocument ∧
      parse "t.tld" faultyText = .error (.signature "t.tld" "f") := by
  have complete : Document.ofText? completeText = some completeDocument := by decide +kernel
  have faulty : Document.ofText? faultyText = some faultyDocument := by decide +kernel
  obtain ⟨succeeds, -, describes⟩ := parse_succeeds_exactly_on_complete "t.tld" _ complete
  obtain ⟨-, fails, -⟩ := parse_succeeds_exactly_on_complete "t.tld" _ faulty
  obtain ⟨library, isOk⟩ := succeeds.mpr
    ((completeDocument.forall_requirements_iff "t.tld").mp (by decide +kernel))
  refine ⟨complete, ⟨library, isOk, describes library isOk⟩, faulty, ?_⟩
  exact (fails _).mpr ((firstUnmet?_eq_some_iff _ _).mp (by decide +kernel))

end Tld
end JspCompletion
