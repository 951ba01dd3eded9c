import JspCompletion.Markup.Declaration
import JspCompletion.Proofs.Text.Blank

/-!
# Attributes and the parts of a taglib directive

An attribute is read as it is written, and a search for attributes passes over
the characters that start no name.  A taglib directive reads its own two
attributes more strictly, with nothing blank around the equals sign.
-/

namespace JspCompletion
namespace Markup

/-! ## Attributes -/

namespace Attribute

/-- The text of an attribute, without blank characters around the equals
sign. -/
def chars (written : Attribute) : List Char :=
  written.name.toList ++ '=' :: '"' :: (written.value.toList ++ ['"'])

theorem isNameStart_of_isNameRest
    {char : Char}
    (other : isNameRest char = false) :
    isNameStart char = false := by
  simp only [isNameRest, isNameStart, Char.isAlphanum, Bool.or_eq_false_iff] at other ⊢
  exact ⟨⟨other.1.1.1.1.1, other.1.1.1.2⟩, other.1.1.2⟩

theorem isNameRest_of_isBlank
    {char : Char}
    (blank : Text.isBlank char = true) :
    isNameRest char = false :=
  Text.eq_false_of_isBlank (by decide) blank

/-- Characters that start no name are passed over. -/
theorem valuesOf_append_of_not_start
    {silent rest : List Char}
    (silently : ∀ char ∈ silent, isNameStart char = false) :
    Text.valuesOf recognize? (silent ++ rest) = Text.valuesOf recognize? rest := by
  apply Text.valuesOf_append_of_none
  intro back isBack nonempty
  obtain ⟨char, back, rfl⟩ := List.exists_cons_of_ne_nil nonempty
  have other : isNameStart char = false := silently char (isBack.mem List.mem_cons_self)
  simp [recognize?, other]

/-- An attribute is read as it is written. -/
theorem recognize?_chars
    {written : Attribute}
    {first : Char}
    {name : List Char}
    (nameEq : written.name.toList = first :: name)
    (starts : isNameStart first = true)
    (named : ∀ char ∈ name, isNameRest char = true)
    (unquoted : '"' ∉ written.value.toList)
    (rest : List Char) :
    recognize? (written.chars ++ rest) = some (written, rest) := by
  let behind := '=' :: '"' :: (written.value.toList ++ '"' :: rest)
  have layout : written.chars ++ rest = first :: (name ++ behind) := by
    simp [chars, nameEq, behind]
  have ends : ∀ char ∈ behind.head?, isNameRest char = false := by
    rintro char ⟨⟩
    decide
  have quoted : Text.quoted? ('"' :: (written.value.toList ++ '"' :: rest)) =
      some (written.value.toList, rest) :=
    Text.quoted?_eq_some_iff.mpr ⟨unquoted, rfl⟩
  have sign : Text.trimStart behind = behind := rfl
  have quote : Text.trimStart ('"' :: (written.value.toList ++ '"' :: rest)) =
      '"' :: (written.value.toList ++ '"' :: rest) := rfl
  rw [layout]
  simp [recognize?, starts, Text.takeWhile_append_of_stop named ends,
    Text.dropWhile_append_of_stop named ends, sign, behind, quote, Text.after?, quoted, ← nameEq]

end Attribute

/-! ## The parts of a directive -/

namespace Declaration

/-- The attribute has one of the names that a taglib directive uses, and its
value can be written between quotes. -/
structure IsPart (part : Attribute) : Prop where
  isName : part.name = "prefix" ∨ part.name = "uri"
  unquoted : '"' ∉ part.value.toList

/-- The part of an attribute behind its name. -/
theorem value_eq_some_iff
    {name : String}
    {text tail : List Char}
    {part : Attribute} :
    ((Text.after? ['='] text).bind fun signed => (Text.quoted? signed).bind fun found =>
        some (({ name, value := String.ofList found.1 } : Attribute), found.2)) =
          some (part, tail) ↔
      part.name = name ∧ '"' ∉ part.value.toList ∧
        text = '=' :: '"' :: (part.value.toList ++ '"' :: tail) := by
  simp only [Option.bind_eq_some_iff, Text.after?_eq_some_iff]
  constructor
  · rintro ⟨signed, rfl, ⟨value, rest⟩, quoted, result⟩
    obtain ⟨unquoted, rfl⟩ := Text.quoted?_eq_some_iff.mp quoted
    cases result
    simpa using unquoted
  · rintro ⟨rfl, unquoted, rfl⟩
    refine ⟨_, rfl, (part.value.toList, tail), Text.quoted?_eq_some_iff.mpr ⟨unquoted, rfl⟩, ?_⟩
    simp

/-- An attribute of a taglib directive is read as it is written. -/
theorem part?_eq_some_iff
    {text tail : List Char}
    {part : Attribute} :
    part? text = some (part, tail) ↔ IsPart part ∧ text = part.chars ++ tail := by
  have layout (name : String) (named : part.name = name) : part.chars ++ tail =
      name.toList ++ '=' :: '"' :: (part.value.toList ++ '"' :: tail) := by
    simp [Attribute.chars, named]
  constructor
  · intro found
    simp only [part?] at found
    split at found
    · rename_i behind named
      obtain ⟨isName, unquoted, rfl⟩ := value_eq_some_iff.mp found
      rw [Text.after?_eq_some_iff] at named
      exact ⟨⟨.inl isName, unquoted⟩, by rw [named, layout _ isName]⟩
    · obtain ⟨behind, named, valued⟩ := Option.bind_eq_some_iff.mp found
      obtain ⟨isName, unquoted, rfl⟩ := value_eq_some_iff.mp valued
      rw [Text.after?_eq_some_iff] at named
      exact ⟨⟨.inr isName, unquoted⟩, by rw [named, layout _ isName]⟩
  · rintro ⟨⟨isName, unquoted⟩, rfl⟩
    simp only [part?]
    rcases isName with isName | isName
    · rw [layout _ isName, Text.after?_append]
      exact value_eq_some_iff.mpr ⟨isName, unquoted, rfl⟩
    · have other : Text.after? "prefix".toList ("uri".toList ++
          '=' :: '"' :: (part.value.toList ++ '"' :: tail)) = none := rfl
      rw [layout _ isName, other, Text.after?_append]
      exact value_eq_some_iff.mpr ⟨isName, unquoted, rfl⟩

theorem IsPart.isBlank_head
    {part : Attribute}
    (isPart : IsPart part)
    (rest : List Char) :
    ∀ char ∈ (part.chars ++ rest).head?, Text.isBlank char = false := by
  rw [Attribute.chars]
  rcases isPart.isName with isName | isName
  · rw [isName]
    rintro char ⟨⟩
    decide
  · rw [isName]
    rintro char ⟨⟩
    decide

end Declaration
end Markup
end JspCompletion
