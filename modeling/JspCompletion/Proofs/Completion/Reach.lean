import JspCompletion.Proofs.Completion.Forms
import JspCompletion.Proofs.Text.Bytes

/-!
# What typed text reaches

A name under a namespace is reached by every beginning of its qualified form, in
whatever case it is typed.  The comparison is made in lower case, where the qualified
form is lower-cased once more.  Among ASCII characters lower-casing works character
by character, so none of this is seen.
-/

namespace JspCompletion
namespace Text

/-! ## Lower case of ASCII texts -/

/-- All characters are ASCII. -/
def IsAscii (text : List Char) : Prop :=
  ∀ char ∈ text, char.toNat < 128

theorem IsAscii.of_prefix
    {text front : List Char}
    (ascii : IsAscii text)
    (isFront : front <+: text) :
    IsAscii front :=
  fun char member => ascii char (isFront.subset member)

/-- What holds of the ASCII code points holds of ASCII characters. -/
theorem of_forall_code
    (property : Char → Prop)
    (holds : ∀ code : Fin 128, property (Char.ofNat code))
    {char : Char}
    (ascii : char.toNat < 128) :
    property char := by
  rw [← Char.ofNat_toNat char]
  exact holds ⟨char.toNat, ascii⟩

theorem lowerChar_of_ascii
    {char : Char}
    (ascii : char.toNat < 128) :
    lowerChar char = [char.toLower] :=
  of_forall_code (fun char => lowerChar char = [char.toLower]) (by decide +kernel) ascii

theorem toLower_toLower_of_ascii
    {char : Char}
    (ascii : char.toNat < 128) :
    char.toLower.toLower = char.toLower :=
  of_forall_code (fun char => char.toLower.toLower = char.toLower) (by decide +kernel) ascii

theorem toLower_ascii
    {char : Char}
    (ascii : char.toNat < 128) :
    char.toLower.toNat < 128 :=
  of_forall_code (fun char => char.toLower.toNat < 128) (by decide +kernel) ascii

theorem IsAscii.map_toLower
    {text : List Char}
    (ascii : IsAscii text) :
    IsAscii (text.map Char.toLower) := by
  intro char member
  obtain ⟨other, inText, rfl⟩ := List.mem_map.mp member
  exact toLower_ascii (ascii other inText)

theorem lowerAfter_of_isAscii
    {text : List Char}
    (ascii : IsAscii text)
    (behind : List Char) :
    lowerAfter behind text = text.map Char.toLower := by
  induction text generalizing behind with
  | nil => rfl
  | cons char rest inductionHypothesis =>
      have here := ascii char List.mem_cons_self
      have noSigma : (char == 'Σ') = false := by
        rw [beq_eq_false_iff_ne]
        rintro rfl
        exact absurd here (by decide)
      have later := inductionHypothesis fun other member =>
        ascii other (List.mem_cons_of_mem char member)
      simp [lowerAfter, noSigma, lowerChar_of_ascii here, later]

/-- The lower-case form of an ASCII text is that of its characters. -/
theorem lower_of_isAscii
    {text : List Char}
    (ascii : IsAscii text) :
    lower text = text.map Char.toLower :=
  lowerAfter_of_isAscii ascii []

end Text

/-! ## Beginnings of qualified names -/

namespace Name

open Text (IsAscii)

variable {name : Name} {space typed : List Char}

/-- Lower-casing the namespace first makes no difference. -/
theorem lower_qualified
    (ascii : IsAscii (space ++ ':' :: name.text.toList)) :
    Text.lower (Text.lower space ++ ':' :: name.text.toList) =
      (space ++ ':' :: name.text.toList).map Char.toLower := by
  have asciiSpace : IsAscii space := ascii.of_prefix (List.prefix_append space _)
  have asciiBehind : IsAscii (':' :: name.text.toList) :=
    fun char member => ascii char (List.mem_append_right space member)
  have asciiOnce : IsAscii (space.map Char.toLower ++ ':' :: name.text.toList) := by
    intro char member
    rcases List.mem_append.mp member with inSpace | behind
    · exact asciiSpace.map_toLower char inSpace
    · exact asciiBehind char behind
  have again : (space.map Char.toLower).map Char.toLower = space.map Char.toLower := by
    rw [List.map_map]
    apply List.map_congr_left
    intro char member
    exact Text.toLower_toLower_of_ascii (asciiSpace char member)
  rw [Text.lower_of_isAscii asciiSpace, Text.lower_of_isAscii asciiOnce, List.map_append, again,
    List.map_append]

/-- Every beginning of the qualified form reaches the name. -/
theorem isReachedUnder_of_prefix
    (ascii : IsAscii (space ++ ':' :: name.text.toList))
    (begun : typed <+: space ++ ':' :: name.text.toList) :
    name.isReachedUnder (String.ofList space) (Text.lowered (String.ofList typed)) = true := by
  have loweredTyped : (Text.lowered (String.ofList typed)).toList = typed.map Char.toLower := by
    simp [Text.lowered, Text.lower_of_isAscii (ascii.of_prefix begun)]
  rw [isReachedUnder_iff]
  refine Or.inl ⟨_, List.mem_cons_self, ?_⟩
  rw [String.toList_ofList, lower_qualified ascii, loweredTyped]
  exact begun.map _

end Name
end JspCompletion
