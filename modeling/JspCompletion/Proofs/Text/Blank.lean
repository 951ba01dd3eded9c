import JspCompletion.Proofs.Text.Recognize
import JspCompletion.Text.Word
import Mathlib.Data.List.DropRight

/-!
# White space

White space belongs to no word.  Trimming takes away all of it on both sides, so
nothing is left of a text of white space only, and trimming once is enough.
-/

namespace JspCompletion
namespace Text

/-! ## Blank characters -/

/-- The code points of blank characters. -/
def blankCodes : List Nat :=
  [0x9, 0xA, 0xB, 0xC, 0xD, 0x20, 0x85, 0xA0, 0x1680, 0x2000, 0x2001, 0x2002, 0x2003, 0x2004,
    0x2005, 0x2006, 0x2007, 0x2008, 0x2009, 0x200A, 0x2028, 0x2029, 0x202F, 0x205F, 0x3000]

theorem toNat_mem_blankCodes
    {char : Char}
    (blank : isBlank char = true) :
    char.toNat ∈ blankCodes := by
  simp only [isBlank, Bool.or_eq_true, Bool.and_eq_true, decide_eq_true_eq, beq_iff_eq] at blank
  simp only [blankCodes, List.mem_cons, List.not_mem_nil, or_false]
  omega

/-- A test that fails for each blank code point fails for blank characters. -/
theorem eq_false_of_isBlank
    {test : Char → Bool}
    (apart : ∀ code ∈ blankCodes, test (Char.ofNat code) = false)
    {char : Char}
    (blank : isBlank char = true) :
    test char = false := by
  rw [← Char.ofNat_toNat char]
  exact apart char.toNat (toNat_mem_blankCodes blank)

/-- White space belongs to no word. -/
theorem isWordChar_of_isBlank
    {char : Char}
    (blank : isBlank char = true) :
    isWordChar char = false :=
  eq_false_of_isBlank (by decide +kernel) blank

/-! ## Trimming -/

/-- Blank characters at the end do not count. -/
theorem trimEnd_append_of_blank
    {behind : List Char}
    (blank : ∀ char ∈ behind, isBlank char = true)
    (text : List Char) :
    trimEnd (text ++ behind) = trimEnd text := by
  have blankReverse : ∀ char ∈ behind.reverse, isBlank char = true :=
    fun char member => blank char (List.mem_reverse.mp member)
  rw [trimEnd, List.reverse_append, List.dropWhile_append_of_pos blankReverse, trimEnd]

theorem trimEnd_eq_self
    {text : List Char}
    (ends : ∀ char ∈ text.getLast?, isBlank char = false) :
    trimEnd text = text := by
  refine List.rdropWhile_eq_self_iff.mpr fun nonempty => ?_
  simp [ends _ (List.getLast?_eq_getLast_of_ne_nil nonempty)]

/-- What is dropped at the end is blank. -/
theorem exists_trimEnd_append (text : List Char) :
    ∃ gap, (∀ char ∈ gap, isBlank char = true) ∧ text = trimEnd text ++ gap :=
  ⟨text.rtakeWhile isBlank, fun _ member => List.mem_rtakeWhile_imp member,
    List.rdropWhile_append_rtakeWhile.symm⟩

/-- Unless nothing is left of the end of a text, the text is trimmed there. -/
theorem trimEnd_append_of_ne_nil
    {back : List Char}
    (remains : trimEnd back ≠ [])
    (front : List Char) :
    trimEnd (front ++ back) = front ++ trimEnd back := by
  have remainsReverse : (back.reverse.dropWhile isBlank).isEmpty = false := by
    simpa [trimEnd] using remains
  rw [trimEnd, List.reverse_append, List.dropWhile_append, remainsReverse, trimEnd]
  simp

/-- An end of a text leaves an end of what the text leaves. -/
theorem trimEnd_suffix
    {back text : List Char}
    (isEnd : back <:+ text) :
    trimEnd back <:+ trimEnd text := by
  obtain ⟨front, rfl⟩ := isEnd
  by_cases empty : trimEnd back = []
  · rw [empty]
    exact List.nil_suffix
  · rw [trimEnd_append_of_ne_nil empty]
    exact List.suffix_append _ _

theorem trimEnd_trimEnd (text : List Char) : trimEnd (trimEnd text) = trimEnd text :=
  List.rdropWhile_idempotent _ _

theorem trim_eq_nil_iff (text : List Char) :
    trim text = [] ↔ text.all isBlank = true := by
  rw [trim, trimEnd, trimStart, List.reverse_eq_nil_iff, List.dropWhile_eq_nil_iff,
    List.all_eq_true]
  constructor
  · intro blank char member
    rw [← List.takeWhile_append_dropWhile (p := isBlank) (l := text)] at member
    rcases List.mem_append.mp member with front | back
    · exact List.mem_takeWhile_imp front
    · exact blank char (List.mem_reverse.mpr back)
  · intro blank char member
    exact blank char ((List.dropWhile_sublist isBlank).subset (List.mem_reverse.mp member))

/-- Trimming leaves nothing of blank texts only. -/
theorem trimmed_eq_empty_iff (text : String) :
    trimmed text = "" ↔ allBlank text = true := by
  rw [trimmed, String.ofList_eq_empty_iff, trim_eq_nil_iff, allBlank]

/-- A text that neither begins nor ends with white space is what trimming leaves
of it when white space is put around it. -/
theorem trim_surrounded
    {before chars behind : List Char}
    (nonempty : chars ≠ [])
    (begins : ∀ char ∈ chars.head?, isBlank char = false)
    (ends : ∀ char ∈ chars.getLast?, isBlank char = false)
    (blankBefore : ∀ char ∈ before, isBlank char = true)
    (blankBehind : ∀ char ∈ behind, isBlank char = true) :
    trim (before ++ (chars ++ behind)) = chars := by
  have start : trimStart (before ++ (chars ++ behind)) = chars ++ behind := by
    refine dropWhile_append_of_stop blankBefore ?_
    rwa [List.head?_append_of_ne_nil _ nonempty]
  have finish : trimEnd (chars ++ behind) = chars := by
    rw [trimEnd_append_of_blank blankBehind, trimEnd_eq_self ends]
  rw [trim, start, finish]

theorem trim_trim (text : List Char) : trim (trim text) = trim text := by
  have start : trimStart (trim text) = trim text := by
    obtain ⟨rest, split⟩ : trim text <+: trimStart text := List.rdropWhile_prefix _ _
    cases trimmedEq : trim text with
    | nil => rfl
    | cons char others =>
        rw [trimmedEq] at split
        have notBlank : ¬isBlank char = true := by
          intro blank
          have first := List.head?_dropWhile_not isBlank text
          have startEq : text.dropWhile isBlank = char :: (others ++ rest) := split.symm
          simp [startEq, blank] at first
        rw [trimStart, List.dropWhile_cons_of_neg notBlank]
  rw [trim, start, trim, trimEnd_trimEnd]

theorem trimmed_trimmed (text : String) : trimmed (trimmed text) = trimmed text := by
  rw [trimmed, trimmed, String.toList_ofList, trim_trim]

end Text
end JspCompletion
