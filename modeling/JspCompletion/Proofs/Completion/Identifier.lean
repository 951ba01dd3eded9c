import JspCompletion.Proofs.Completion.Slices

/-!
# The longest identifier in front of the cursor

What was typed is the longest end of the text in front of the cursor that begins
with a letter and holds nothing but letters, digits, `_` and `:`.  It is found in
the bytes of the text: backward over what an identifier may hold, and from there
forward to the first letter.  Both searches stop at borders of characters.

Once something was typed, each further character of an identifier is typed behind
it, and what was typed before stays.
-/

namespace JspCompletion
namespace Markup

/-- A letter, followed by letters, digits, `_` and `:`. -/
def IsIdentifier (text : List Char) : Prop :=
  (∃ first, text.head? = some first ∧ first.isAlpha = true) ∧
    ∀ char ∈ text, isIdentifierChar char = true

/-- With characters of identifiers behind it, a text ends with what it ended with
before and these characters; if it ended with no identifier, only what is in front of
the first letter goes. -/
theorem trailingIdentifier_append_chars
    (text : List Char)
    {more : List Char}
    (allowed : ∀ char ∈ more, isIdentifierChar char = true) :
    trailingIdentifier (text ++ more) =
      if (trailingIdentifier text).isEmpty then
        more.dropWhile fun char => !char.isAlpha
      else
        trailingIdentifier text ++ more := by
  have allowedReverse : ∀ char ∈ more.reverse, isIdentifierChar char = true :=
    fun char member => allowed char (List.mem_reverse.mp member)
  rw [trailingIdentifier, List.reverse_append, List.takeWhile_append_of_pos allowedReverse,
    List.reverse_append, List.reverse_reverse, List.dropWhile_append]
  rfl

theorem IsIdentifier.dropWhile_eq_self
    {text : List Char}
    (identifier : IsIdentifier text) :
    (text.dropWhile fun char => !char.isAlpha) = text := by
  obtain ⟨⟨first, starts, letter⟩, -⟩ := identifier
  obtain ⟨rest, rfl⟩ := List.head?_eq_some_iff.mp starts
  exact List.dropWhile_cons_of_neg (by simp [letter])

/-- An identifier that ends a text ends the one that is found. -/
theorem IsIdentifier.suffix_trailingIdentifier
    {text other : List Char}
    (identifier : IsIdentifier other)
    (isEnd : other <:+ text) :
    other <:+ trailingIdentifier text := by
  obtain ⟨front, rfl⟩ := isEnd
  rw [trailingIdentifier_append_chars front identifier.2]
  split
  · rw [identifier.dropWhile_eq_self]
  · exact List.suffix_append _ _

theorem isIdentifier_trailingIdentifier
    {text : List Char}
    (found : trailingIdentifier text ≠ []) :
    IsIdentifier (trailingIdentifier text) := by
  refine ⟨⟨_, List.head?_eq_some_head found, ?_⟩, fun char member =>
    isIdentifierChar_of_mem_trailingIdentifier member⟩
  have stops : (!((trailingIdentifier text).head found).isAlpha) = false :=
    List.head_dropWhile_not (fun char : Char => !char.isAlpha) found
  simpa using stops

/-- For every text: the identifier found in its bytes, which always is cut out at
borders, ends the text, and it is empty or an identifier; any other end of the text
of that kind is an end of it, so it is the longest; and where it is not empty,
characters of identifiers that are typed behind the text are typed behind it. -/
theorem typed_identifier_is_longest (text : List Char) :
    trailingIdentifier? text = some (trailingIdentifier text) ∧
    trailingIdentifier text <:+ text ∧
    (trailingIdentifier text = [] ∨ IsIdentifier (trailingIdentifier text)) ∧
    (∀ other, other <:+ text → other = [] ∨ IsIdentifier other →
      other <:+ trailingIdentifier text) ∧
    ∀ more, (∀ char ∈ more, isIdentifierChar char = true) → trailingIdentifier text ≠ [] →
      trailingIdentifier (text ++ more) = trailingIdentifier text ++ more := by
  refine ⟨trailingIdentifier?_eq text, trailingIdentifier_suffix text, ?_, ?_, ?_⟩
  · by_cases nothing : trailingIdentifier text = []
    · exact Or.inl nothing
    · exact Or.inr (isIdentifier_trailingIdentifier nothing)
  · rintro other isEnd (rfl | identifier)
    · exact List.nil_suffix
    · exact identifier.suffix_trailingIdentifier isEnd
  · intro more allowed found
    rw [trailingIdentifier_append_chars text allowed, if_neg (mt List.isEmpty_iff.mp found)]

/-- Behind a character of several bytes and a digit, `ns` is the identifier, and `:fn`
goes on with it. -/
theorem typed_identifier_goes_on :
    let text := "$\x7bé1ns".toList
    trailingIdentifier text = "ns".toList ∧
      IsIdentifier "s".toList ∧ "s".toList <:+ trailingIdentifier text ∧
      (∀ char ∈ ":fn".toList, isIdentifierChar char = true) ∧
      trailingIdentifier (text ++ ":fn".toList) = "ns:fn".toList := by
  intro text
  have found : trailingIdentifier text = "ns".toList := by decide
  have letter : IsIdentifier "s".toList :=
    ⟨⟨'s', rfl, by decide⟩, List.all_eq_true.mp (by decide)⟩
  have allowed : ∀ char ∈ ":fn".toList, isIdentifierChar char = true :=
    List.all_eq_true.mp (by decide)
  obtain ⟨-, -, -, longest, goesOn⟩ := typed_identifier_is_longest text
  refine ⟨found, letter, longest _ (by decide) (Or.inr letter), allowed, ?_⟩
  rw [goesOn _ allowed (by rw [found]; decide), found]
  rfl

end Markup
end JspCompletion
