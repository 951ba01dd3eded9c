import JspCompletion.Descriptor.Suggest
import JspCompletion.Proofs.Text.Case
import Mathlib.Data.List.Infix

/-!
# The forms of a name

Functions and tags are compared with what was typed in two ways.  Where the typed
text overlaps the namespace of their library, one of the two beginning with the
other, the forms behind the namespace count, and elsewhere the bare ones.

What begins a form behind the namespace always overlaps the namespace, so these
forms always reach the item.  A bare form does not: a tag `choose` under the
namespace `c` is missed by its own name.
-/

namespace JspCompletion

/-- One of two texts begins with the other. -/
def Overlaps (left right : List Char) : Prop :=
  left <+: right ∨ right <+: left

instance (left right : List Char) : Decidable (Overlaps left right) :=
  inferInstanceAs (Decidable (_ ∨ _))

theorem startsWith_eq_true_iff {text start : String} :
    startsWith text start = true ↔ start.toList <+: text.toList := by
  rw [startsWith, List.isPrefixOf_iff_prefix]

/-! ## Names -/

namespace Name

/-- What a name is compared with where the namespace does not count: the name in
lower case and its abbreviation. -/
def bareForms (name : Name) : List (List Char) :=
  [Text.lower name.text.toList, name.abbreviation.toList]

/-- What a name is compared with behind a namespace. -/
def qualifiedForms (name : Name) (space : String) : List (List Char) :=
  [Text.lower (Text.lower space.toList ++ ':' :: name.text.toList),
    Text.lower space.toList ++ ':' :: name.abbreviation.toList]

variable {name : Name} {space typed : String} {form : List Char}

theorem isLowered_abbreviation (name : Name) : Text.IsLowered name.abbreviation.toList := by
  unfold abbreviation abbreviate
  split
  · exact List.forall_mem_nil _
  · rw [String.toList_ofList]
    exact Text.isLowered_lower _

theorem isLowered_of_mem_bareForms
    (isForm : form ∈ name.bareForms) :
    Text.IsLowered form := by
  rcases List.mem_pair.mp isForm with rfl | rfl
  · exact Text.isLowered_lower _
  · exact name.isLowered_abbreviation

theorem isLowered_of_mem_qualifiedForms
    (isForm : form ∈ name.qualifiedForms space) :
    Text.IsLowered form := by
  rcases List.mem_pair.mp isForm with rfl | rfl
  · exact Text.isLowered_lower _
  · have colon : Text.lowerChar ':' = [':'] := by decide +kernel
    intro char member
    rcases List.mem_append.mp member with inSpace | behind
    · exact Text.isLowered_lower _ char inSpace
    · rcases List.mem_cons.mp behind with rfl | inName
      · exact colon
      · exact name.isLowered_abbreviation char inName

/-- The namespace in lower case begins every form behind it. -/
theorem lower_prefix_of_mem_qualifiedForms
    (isForm : form ∈ name.qualifiedForms space) :
    Text.lower space.toList <+: form := by
  rcases List.mem_pair.mp isForm with rfl | rfl
  · exact (Text.isLowered_lower _).prefix_lower_append _
  · exact List.prefix_append _ _

/-- The typed text reaches the name through the forms behind the namespace where
it overlaps the namespace, and through the bare forms elsewhere. -/
theorem isReachedUnder_iff :
    name.isReachedUnder space typed = true ↔
      (∃ form ∈ name.qualifiedForms space, typed.toList <+: form) ∨
        ¬Overlaps (Text.lower space.toList) typed.toList ∧
          ∃ form ∈ name.bareForms, typed.toList <+: form := by
  have loweredSpace : (Text.lowered space).toList = Text.lower space.toList := by
    simp [Text.lowered]
  have overlapping : (startsWith (Text.lowered space) typed ||
      startsWith typed (Text.lowered space)) = true ↔
        Overlaps (Text.lower space.toList) typed.toList := by
    rw [Bool.or_eq_true, startsWith_eq_true_iff, startsWith_eq_true_iff, loweredSpace, Overlaps,
      or_comm]
  have qualifiedTest : (startsWith (Text.lowered (Text.lowered space ++ ":" ++ name.text)) typed ||
      startsWith (Text.lowered space ++ ":" ++ name.abbreviation) typed) = true ↔
        ∃ form ∈ name.qualifiedForms space, typed.toList <+: form := by
    simp [startsWith_eq_true_iff, qualifiedForms, Text.lowered]
  have bareTest : (startsWith (Text.lowered name.text) typed ||
      startsWith name.abbreviation typed) = true ↔
        ∃ form ∈ name.bareForms, typed.toList <+: form := by
    simp [startsWith_eq_true_iff, bareForms, Text.lowered]
  have beginsOverlapping : (∃ form ∈ name.qualifiedForms space, typed.toList <+: form) →
      Overlaps (Text.lower space.toList) typed.toList := by
    rintro ⟨form, isForm, begun⟩
    exact List.prefix_or_prefix_of_prefix (lower_prefix_of_mem_qualifiedForms isForm) begun
  rw [isReachedUnder]
  by_cases overlap : Overlaps (Text.lower space.toList) typed.toList
  · rw [if_pos (overlapping.mpr overlap), qualifiedTest]
    simp [overlap]
  · rw [if_neg (mt overlapping.mp overlap), bareTest]
    simp [overlap, mt beginsOverlapping overlap]

end Name

/-! ## Functions and tags -/

namespace Descriptor

/-- The uri of the library that a function or a tag belongs to. -/
def libraryUri? : Descriptor → Option String
  | function item => some item.uri
  | tag item => some item.uri
  | _ => none

variable {item : Descriptor} {context : MatchContext} {uri space : String}

theorem isReached_eq_isReachedUnder
    (fromLibrary : item.libraryUri? = some uri)
    (bound : namespaceFor? context.declared uri = some space) :
    item.isReached context = item.name.isReachedUnder space context.needle := by
  cases item with
  | function item =>
      cases fromLibrary
      simp only [isReached, LibraryFunction.isReached, bound, name]
  | tag item =>
      cases fromLibrary
      simp only [isReached, LibraryTag.isReached, bound, name]
  | _ => cases fromLibrary

/-- What begins a form in lower case is compared as it is typed. -/
theorem toList_needle_of_isLowered
    {form : List Char}
    (isLowered : Text.IsLowered form)
    (begun : context.typed.toList <+: form) :
    context.needle.toList = context.typed.toList := by
  rw [MatchContext.needle, Text.lowered, String.toList_ofList, (isLowered.of_prefix begun).lower_eq]

/-- A function or tag of a declared library is reached by what begins one of its
bare forms, whatever namespace the page binds the library to, unless that text
overlaps the namespace in lower case: then it has to begin one of the forms
behind the namespace.  What begins one of these always reaches the item. -/
theorem bare_forms_reach_iff
    (item : Descriptor)
    (context : MatchContext)
    {uri space : String}
    (fromLibrary : item.libraryUri? = some uri)
    (bound : namespaceFor? context.declared uri = some space) :
    (∀ form ∈ item.name.bareForms, context.typed.toList <+: form →
      (item.isReached context = true ↔
        ¬Overlaps (Text.lower space.toList) context.typed.toList ∨
          ∃ form ∈ item.name.qualifiedForms space, context.typed.toList <+: form)) ∧
      ∀ form ∈ item.name.qualifiedForms space, context.typed.toList <+: form →
        item.isReached context = true := by
  rw [isReached_eq_isReachedUnder fromLibrary bound, Name.isReachedUnder_iff]
  constructor
  · intro form isForm begun
    rw [toList_needle_of_isLowered (Name.isLowered_of_mem_bareForms isForm) begun]
    have begins : ∃ form ∈ item.name.bareForms, context.typed.toList <+: form :=
      ⟨form, isForm, begun⟩
    simp only [begins, and_true]
    exact or_comm
  · intro form isForm begun
    rw [toList_needle_of_isLowered (Name.isLowered_of_mem_qualifiedForms isForm) begun]
    exact Or.inl ⟨form, isForm, begun⟩

/-- A tag that chooses among others. -/
def chooseTag : LibraryTag :=
  { name := ⟨"choose", by decide⟩
    uri := "u"
    className := ""
    description := ""
    content := ""
    attributes := [] }

/-- A page that binds the library of the tag to a namespace. -/
def choosing (space typed : String) : MatchContext :=
  { typed
    declared :=
      [{ boundTo := space
         library :=
          { name := ⟨"core", by decide⟩
            uri := "u"
            fullName := ""
            description := ""
            functions := []
            tags := [chooseTag] } }] }

/-- Under the namespace `jstl` the whole bare name reaches the tag.  Under `core` its
first letter does, which begins the form behind the namespace too. -/
theorem chooseTag_isReached :
    (tag chooseTag).isReached (choosing "jstl" "choose") = true ∧
      (tag chooseTag).isReached (choosing "core" "c") = true := by
  have isForm : "choose".toList ∈ chooseTag.name.bareForms := by decide +kernel
  have apart := (bare_forms_reach_iff (tag chooseTag) (choosing "jstl" "choose") rfl rfl).1
    "choose".toList isForm (by decide)
  have overlapping := (bare_forms_reach_iff (tag chooseTag) (choosing "core" "c") rfl rfl).1
    "choose".toList isForm (by decide)
  exact ⟨apart.mpr (Or.inl (by decide +kernel)), overlapping.mpr (Or.inr (by decide +kernel))⟩

/-- The bare name is not always accepted: under the namespace `c`, which begins it,
the tag is missed. -/
theorem chooseTag_is_missed :
    ¬∀ (item : Descriptor) (context : MatchContext) (uri space : String),
      item.libraryUri? = some uri → namespaceFor? context.declared uri = some space →
        ∀ form ∈ item.name.bareForms, context.typed ≠ "" → context.typed.toList <+: form →
          item.isReached context = true := by
  intro always
  have isForm : "choose".toList ∈ chooseTag.name.bareForms := by decide +kernel
  have missed : (tag chooseTag).isReached (choosing "c" "choose") = false := by decide +kernel
  have reached := always (tag chooseTag) (choosing "c" "choose") "u" "c" rfl rfl _ isForm
    (by decide) (List.prefix_refl _)
  rw [missed] at reached
  cases reached

end Descriptor
end JspCompletion
