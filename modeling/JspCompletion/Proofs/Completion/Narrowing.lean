import JspCompletion.Proofs.Completion.Forms

/-!
# Typing more narrows

What is reached by a text is reached by everything that begins the text.  For
plain names this is how beginnings compose.  Functions and tags need an argument,
for the comparison changes from the forms behind the namespace to the bare ones
as soon as the typed text leaves the namespace: what still overlaps the namespace
then begins it, and so begins the forms behind it.

Typed texts are compared in lower case, and the lower-case form of a text need not
begin that of a longer one: a final sigma is written differently.  In texts that
are in lower case nothing is left to change.
-/

namespace JspCompletion

theorem startsWith_trans
    {text longer shorter : String}
    (starts : startsWith text longer = true)
    (begun : startsWith longer shorter = true) :
    startsWith text shorter = true := by
  rw [startsWith_eq_true_iff] at starts begun ⊢
  exact begun.trans starts

theorem nameStarts_of_startsWith
    {name longer shorter : String}
    (starts : nameStarts name longer = true)
    (begun : startsWith longer shorter = true) :
    nameStarts name shorter = true := by
  simp only [nameStarts, Bool.and_eq_true, Bool.or_eq_true] at starts ⊢
  obtain ⟨nonempty, asWritten | lowered⟩ := starts
  · exact ⟨nonempty, Or.inl (startsWith_trans asWritten begun)⟩
  · exact ⟨nonempty, Or.inr (startsWith_trans lowered begun)⟩

namespace Name

variable {name : Name} {longer shorter : String}

theorem isReachedBy_of_startsWith
    (reached : name.isReachedBy longer = true)
    (begun : startsWith longer shorter = true) :
    name.isReachedBy shorter = true := by
  simp only [isReachedBy, Bool.or_eq_true] at reached ⊢
  rcases reached with byName | byAbbreviation
  · exact Or.inl (nameStarts_of_startsWith byName begun)
  · exact Or.inr (nameStarts_of_startsWith byAbbreviation begun)

/-- The forms that count may be others for the shorter text, but then it begins the
namespace. -/
theorem isReachedUnder_of_startsWith
    {space : String}
    (reached : name.isReachedUnder space longer = true)
    (begun : startsWith longer shorter = true) :
    name.isReachedUnder space shorter = true := by
  rw [startsWith_eq_true_iff] at begun
  rw [isReachedUnder_iff] at reached ⊢
  rcases reached with ⟨form, isForm, starts⟩ | ⟨apart, form, isForm, starts⟩
  · exact Or.inl ⟨form, isForm, begun.trans starts⟩
  · by_cases overlap : Overlaps (Text.lower space.toList) shorter.toList
    · have inSpace : shorter.toList <+: Text.lower space.toList := by
        rcases overlap with beginsShorter | beginsSpace
        · exact absurd (Or.inl (beginsShorter.trans begun)) apart
        · exact beginsSpace
      obtain ⟨qualified, isQualified⟩ : ∃ form, form ∈ name.qualifiedForms space :=
        ⟨_, List.mem_cons_self⟩
      exact Or.inl ⟨qualified, isQualified,
        inSpace.trans (lower_prefix_of_mem_qualifiedForms isQualified)⟩
    · exact Or.inr ⟨overlap, form, isForm, begun.trans starts⟩

end Name

namespace Descriptor

variable {item : Descriptor}

/-- What belongs to no library is compared without a namespace. -/
theorem isReached_eq_isReachedBy
    (fromNone : item.libraryUri? = none)
    (context : MatchContext) :
    item.isReached context = item.name.isReachedBy context.needle := by
  cases item with
  | function _ => cases fromNone
  | tag _ => cases fromNone
  | _ => rfl

/-- What belongs to a library is compared under the namespace of the library, if it
is declared. -/
theorem isReached_eq_any
    {uri : String}
    (fromLibrary : item.libraryUri? = some uri)
    (context : MatchContext) :
    item.isReached context =
      (namespaceFor? context.declared uri).any (item.name.isReachedUnder · context.needle) := by
  cases bound : namespaceFor? context.declared uri with
  | some space => rw [isReached_eq_isReachedUnder fromLibrary bound, Option.any_some]
  | none =>
      cases item with
      | function item =>
          cases fromLibrary
          simp only [isReached, LibraryFunction.isReached, bound, Option.any_none]
      | tag item =>
          cases fromLibrary
          simp only [isReached, LibraryTag.isReached, bound, Option.any_none]
      | _ => cases fromLibrary

/-- A descriptor is reached by what begins the text that reaches it, in lower case
and among the same libraries. -/
theorem isReached_of_startsWith_needle
    {fewer more : MatchContext}
    (sameLibraries : fewer.declared = more.declared)
    (begun : startsWith more.needle fewer.needle = true)
    (reached : item.isReached more = true) :
    item.isReached fewer = true := by
  cases origin : item.libraryUri? with
  | none =>
      rw [isReached_eq_isReachedBy origin] at reached ⊢
      exact Name.isReachedBy_of_startsWith reached begun
  | some uri =>
      rw [isReached_eq_any origin, Option.any_eq_true] at reached ⊢
      obtain ⟨space, bound, reachedUnder⟩ := reached
      exact ⟨space, sameLibraries ▸ bound, Name.isReachedUnder_of_startsWith reachedUnder begun⟩

/-- A text in lower case, and all that begins it, is compared as it is typed. -/
theorem needle_eq_typed
    {context : MatchContext}
    {text : String}
    (lowerCase : Text.lowered text = text)
    (begun : startsWith text context.typed = true) :
    context.needle = context.typed := by
  have isLowered : Text.IsLowered text.toList := by
    rw [← lowerCase, Text.lowered, String.toList_ofList]
    exact Text.isLowered_lower _
  rw [← String.toList_inj]
  exact toList_needle_of_isLowered isLowered (startsWith_eq_true_iff.mp begun)

/-- Typing more only narrows: of two texts in lower case, the first of which begins
the second, a descriptor of any kind that is reached by the second is reached by the
first, whatever libraries are declared. -/
theorem typing_more_narrows
    (item : Descriptor)
    (fewer more : MatchContext)
    (sameLibraries : fewer.declared = more.declared)
    (lowerCase : Text.lowered more.typed = more.typed)
    (begun : startsWith more.typed fewer.typed = true)
    (reached : item.isReached more = true) :
    item.isReached fewer = true := by
  have whole : startsWith more.typed more.typed = true :=
    startsWith_eq_true_iff.mpr (List.prefix_refl _)
  apply isReached_of_startsWith_needle sameLibraries _ reached
  rw [needle_eq_typed lowerCase whole, needle_eq_typed lowerCase begun]
  exact begun

/-- Under the namespace `cx` the tag `choose` is reached by its bare name, and by the
first letter of it, which begins the namespace. -/
theorem chooseTag_narrows :
    Text.lowered "choose" = "choose" ∧ startsWith "choose" "c" = true ∧
      (tag chooseTag).isReached (choosing "cx" "choose") = true ∧
      (tag chooseTag).isReached (choosing "cx" "c") = true := by
  have lowerCase : Text.lowered "choose" = "choose" := by decide +kernel
  have begun : startsWith "choose" "c" = true := by decide
  have reached : (tag chooseTag).isReached (choosing "cx" "choose") = true := by decide +kernel
  exact ⟨lowerCase, begun, reached,
    typing_more_narrows (tag chooseTag) (choosing "cx" "c") (choosing "cx" "choose") rfl
      lowerCase begun reached⟩

end Descriptor
end JspCompletion
