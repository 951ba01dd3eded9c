import JspCompletion.TypeName
import JspCompletion.Proofs.Text.Blank

/-!
# The last segment of a type

The short form of a type is the longest segment that ends it, blank characters
aside; a type that ends in no segment is trimmed.  A dot in a segment stands at its
end, with nothing but dots behind it, so no segment reaches from the qualifier over
the dot into the segment behind.  Whatever stands in front of the dot, a segment
behind it is the short form.

A segment is its own short form, and trimming leaves no segment at the end of a type
that had none there.  Hence shortening twice is shortening once.
-/

namespace JspCompletion
namespace TypeName

/-! ## Segments -/

theorem isSegmentRest_of_isSegmentStart
    {char : Char}
    (starts : isSegmentStart char = true) :
    isSegmentRest char = true := by
  simp only [isSegmentStart, isSegmentRest, Char.isAlphanum, Bool.or_eq_true] at starts ⊢
  tauto

theorem isSegmentRest_of_isBlank
    {char : Char}
    (blank : Text.isBlank char = true) :
    isSegmentRest char = false :=
  Text.eq_false_of_isBlank (by decide) blank

/-- A letter, `_` or `$`, behind it any letters, digits, `_`, `$` and brackets, and at
the end three dots or none. -/
structure Segment where
  /-- Its first character. -/
  first : Char
  /-- The characters between the first one and the dots. -/
  others : List Char
  /-- Three dots stand at the end. -/
  variadic : Bool
  begins : first.isAlpha = true ∨ first = '_' ∨ first = '$'
  continues : ∀ char ∈ others, char.isAlphanum = true ∨ char ∈ ['_', '$', '[', ']']

namespace Segment

/-- The characters in front of the dots. -/
def word (segment : Segment) : List Char :=
  segment.first :: segment.others

/-- The dots at the end. -/
def dots (segment : Segment) : List Char :=
  if segment.variadic then ['.', '.', '.'] else []

/-- The characters of the segment. -/
def chars (segment : Segment) : List Char :=
  segment.word ++ segment.dots

/-- The text of the segment. -/
def text (segment : Segment) : String :=
  String.ofList segment.chars

variable (segment : Segment)

@[simp] theorem toList_text : segment.text.toList = segment.chars :=
  String.toList_ofList

theorem isSegmentStart_first : isSegmentStart segment.first = true := by
  simpa [isSegmentStart, or_assoc] using segment.begins

theorem isSegmentRest_of_mem_others : ∀ char ∈ segment.others, isSegmentRest char = true := by
  intro char member
  simpa [isSegmentRest, or_assoc] using segment.continues char member

theorem isSegmentRest_of_mem_word : ∀ char ∈ segment.word, isSegmentRest char = true := by
  intro char member
  rcases List.mem_cons.mp member with rfl | inOthers
  · exact isSegmentRest_of_isSegmentStart segment.isSegmentStart_first
  · exact segment.isSegmentRest_of_mem_others char inOthers

theorem eq_dot_of_mem_dots : ∀ char ∈ segment.dots, char = '.' := by
  cases variadic : segment.variadic <;> simp [dots, variadic]

theorem chars_ne_nil : segment.chars ≠ [] :=
  List.cons_ne_nil _ _

theorem isBlank_of_mem_chars : ∀ char ∈ segment.chars, Text.isBlank char = false := by
  intro char member
  rcases List.mem_append.mp member with inWord | inDots
  · rw [← Bool.not_eq_true]
    intro blank
    have continues := segment.isSegmentRest_of_mem_word char inWord
    rw [isSegmentRest_of_isBlank blank] at continues
    cases continues
  · rw [segment.eq_dot_of_mem_dots char inDots]
    decide

/-- A segment at the end of a text is not trimmed. -/
theorem trimEnd_append_chars (front : List Char) :
    Text.trimEnd (front ++ segment.chars) = front ++ segment.chars := by
  apply Text.trimEnd_eq_self
  intro char isLast
  rw [List.getLast?_append_of_ne_nil front segment.chars_ne_nil] at isLast
  exact segment.isBlank_of_mem_chars char (List.mem_of_getLast? isLast)

/-- Behind a dot in a segment stand dots only. -/
theorem eq_dot_of_mem_behind
    {before behind : List Char}
    (split : segment.chars = before ++ '.' :: behind) :
    ∀ char ∈ behind, char = '.' := by
  have notInWord : '.' ∉ segment.word := fun member =>
    absurd (segment.isSegmentRest_of_mem_word '.' member) (by decide)
  rw [chars, List.append_eq_append_iff] at split
  intro char member
  apply segment.eq_dot_of_mem_dots
  rcases split with ⟨more, -, dotsEq⟩ | ⟨more, wordEq, dotsEq⟩
  · rw [dotsEq]
    simp [member]
  · cases more with
    | nil =>
        rw [← List.nil_append segment.dots, ← dotsEq]
        exact List.mem_cons_of_mem _ member
    | cons other more =>
        rw [List.cons_append, List.cons.injEq] at dotsEq
        refine absurd ?_ notInWord
        rw [wordEq, dotsEq.1]
        simp

/-! ## Recognising a segment -/

/-- A segment with nothing but blank characters behind it is recognised. -/
theorem closingSegment?_append
    {gap : List Char}
    (blank : ∀ char ∈ gap, Text.isBlank char = true) :
    closingSegment? (segment.chars ++ gap) = some (segment.chars, []) := by
  have allBlank : gap.all Text.isBlank = true := List.all_eq_true.mpr blank
  have inside := segment.isSegmentRest_of_mem_others
  have stops : ∀ char ∈ (segment.dots ++ gap).head?, isSegmentRest char = false := by
    intro char atFront
    rcases List.mem_append.mp (List.mem_of_head? atFront) with inDots | inGap
    · rw [segment.eq_dot_of_mem_dots char inDots]
      decide
    · exact isSegmentRest_of_isBlank (blank char inGap)
  rw [chars, word, List.append_assoc, List.cons_append, closingSegment?,
    if_pos segment.isSegmentStart_first, Text.takeWhile_append_of_stop inside stops,
    Text.dropWhile_append_of_stop inside stops]
  cases variadic : segment.variadic with
  | true => simp [dots, variadic, allBlank]
  | false =>
      simp only [dots, variadic, Bool.false_eq_true, if_false, List.nil_append, List.append_nil]
      split
      · -- No dot is blank.
        cases blank '.' List.mem_cons_self
      · rw [if_pos allBlank]

/-- The segment with a given first character that is read from what follows it. -/
def read
    {first : Char}
    (starts : isSegmentStart first = true)
    (tail : List Char)
    (variadic : Bool) : Segment where
  first := first
  others := tail.takeWhile isSegmentRest
  variadic := variadic
  begins := by simpa [isSegmentStart, or_assoc] using starts
  continues := by
    intro char member
    simpa [isSegmentRest, or_assoc] using List.mem_takeWhile_imp member

theorem trimEnd_eq_chars_read
    {first : Char}
    (starts : isSegmentStart first = true)
    {tail gap : List Char}
    {variadic : Bool}
    (behind : tail.dropWhile isSegmentRest = (read starts tail variadic).dots ++ gap)
    (blank : gap.all Text.isBlank = true) :
    Text.trimEnd (first :: tail) = (read starts tail variadic).chars := by
  have split : first :: tail = (read starts tail variadic).chars ++ gap := by
    rw [chars, word, List.append_assoc, ← behind]
    simp [read]
  rw [split, Text.trimEnd_append_of_blank (List.all_eq_true.mp blank)]
  exact (read starts tail variadic).trimEnd_append_chars []

end Segment

/-- A segment is recognised exactly in the texts that are a segment once they are
trimmed at their end. -/
theorem closingSegment?_eq_some_iff
    {text chars rest : List Char} :
    closingSegment? text = some (chars, rest) ↔
      rest = [] ∧ ∃ segment : Segment, segment.chars = chars ∧ Text.trimEnd text = segment.chars := by
  constructor
  · intro found
    unfold closingSegment? at found
    split at found
    · cases found
    · rename_i first tail
      split at found
      · rename_i starts
        -- With dots or without, what follows them is blank.
        split at found
        · rename_i after behind
          split at found
          · rename_i blank
            cases found
            exact ⟨rfl, Segment.read starts tail true, rfl,
              Segment.trimEnd_eq_chars_read starts behind blank⟩
          · cases found
        · split at found
          · rename_i blank
            cases found
            exact ⟨rfl, Segment.read starts tail false, by simp [Segment.chars, Segment.dots,
              Segment.word, Segment.read], Segment.trimEnd_eq_chars_read starts rfl blank⟩
          · cases found
      · cases found
  · rintro ⟨rfl, segment, rfl, trimmed⟩
    obtain ⟨gap, blank, split⟩ := Text.exists_trimEnd_append text
    rw [split, trimmed]
    exact segment.closingSegment?_append blank

/-! ## The last segment -/

namespace Segment

/-- The segment ends the text, blank characters aside. -/
def Closes (segment : Segment) (text : List Char) : Prop :=
  segment.chars <:+ Text.trimEnd text

/-- The segment is the longest one that ends the text. -/
structure IsLastOf (segment : Segment) (text : List Char) : Prop where
  closes : segment.Closes text
  longest : ∀ other : Segment, other.Closes text → other.chars <:+ segment.chars

variable {segment other : Segment} {text gap : List Char}

/-- Trimming brings no segment to the end of a text. -/
theorem Closes.of_trim (closes : segment.Closes (Text.trim text)) : segment.Closes text := by
  rw [Closes, Text.trim, Text.trimEnd_trimEnd] at closes
  exact closes.trans (Text.trimEnd_suffix (List.dropWhile_suffix _))

theorem IsLastOf.chars_eq
    (isLast : segment.IsLastOf text)
    (otherIsLast : other.IsLastOf text) :
    segment.chars = other.chars :=
  (otherIsLast.longest segment isLast.closes).eq_of_length_le
    (isLast.longest other otherIsLast.closes).length_le

/-- A segment is the last one when no longer one reaches into what stands in front. -/
theorem isLastOf_of_trimEnd_eq
    {front : List Char}
    (trimmed : Text.trimEnd text = front ++ segment.chars)
    (noneLonger : ∀ more, more <:+ front → more ≠ [] →
      ∀ other : Segment, other.chars ≠ more ++ segment.chars) :
    segment.IsLastOf text := by
  constructor
  · rw [Closes, trimmed]
    exact List.suffix_append _ _
  · intro other closes
    rw [Closes, trimmed] at closes
    rcases List.suffix_or_suffix_of_suffix closes (List.suffix_append front segment.chars) with
      inSegment | ⟨more, longer⟩
    · exact inSegment
    · rw [← longer, List.suffix_append_self_iff] at closes
      by_cases empty : more = []
      · rw [← longer, empty]
        exact List.suffix_rfl
      · exact absurd longer.symm (noneLonger more closes empty other)

theorem isLastOf_self : segment.IsLastOf segment.chars := by
  apply isLastOf_of_trimEnd_eq (segment.trimEnd_append_chars [])
  intro more isEnd nonempty
  exact absurd (List.suffix_nil.mp isEnd) nonempty

/-- A segment behind a dot is the last one, whatever stands in front of the dot. -/
theorem isLastOf_qualified
    (blank : ∀ char ∈ gap, Text.isBlank char = true)
    (qualifier : List Char) :
    segment.IsLastOf (qualifier ++ ['.'] ++ segment.chars ++ gap) := by
  have trimmed : Text.trimEnd (qualifier ++ ['.'] ++ segment.chars ++ gap) =
      qualifier ++ ['.'] ++ segment.chars := by
    rw [Text.trimEnd_append_of_blank blank, segment.trimEnd_append_chars]
  refine isLastOf_of_trimEnd_eq trimmed fun more isEnd nonempty other longer => ?_
  -- A longer one would hold the dot, with a character behind it that is no dot.
  obtain empty | ⟨before, rfl, -⟩ := List.suffix_concat_iff.mp isEnd
  · exact nonempty empty
  · rw [List.append_assoc, List.singleton_append] at longer
    have isDot : segment.first = '.' :=
      other.eq_dot_of_mem_behind longer segment.first List.mem_cons_self
    exact absurd (isDot ▸ segment.isSegmentStart_first) (by decide)

end Segment

section Searches

variable {text chars : List Char}

/-- What the search finds is the last segment. -/
theorem exists_isLastOf
    (found : Text.firstValue? closingSegment? text = some chars) :
    ∃ segment : Segment, segment.chars = chars ∧ segment.IsLastOf text := by
  obtain ⟨front, back, rest, rfl, silently, read⟩ := Text.exists_of_firstValue?_eq_some found
  obtain ⟨-, segment, rfl, trimmed⟩ := closingSegment?_eq_some_iff.mp read
  have trimmedBehind (more : List Char) :
      Text.trimEnd (more ++ back) = more ++ segment.chars := by
    rw [Text.trimEnd_append_of_ne_nil (trimmed ▸ segment.chars_ne_nil), trimmed]
  refine ⟨segment, rfl, Segment.isLastOf_of_trimEnd_eq (trimmedBehind front) ?_⟩
  intro more isEnd nonempty other longer
  -- A longer one would have been found earlier.
  have missed : closingSegment? (more ++ back) = none := silently more isEnd nonempty
  have earlier : closingSegment? (more ++ back) = some (other.chars, []) :=
    closingSegment?_eq_some_iff.mpr ⟨rfl, other, rfl, by rw [trimmedBehind, longer]⟩
  rw [missed] at earlier
  cases earlier

/-- Where the search finds nothing, the text ends in no segment. -/
theorem not_closes_of_firstValue?_eq_none
    (missed : Text.firstValue? closingSegment? text = none)
    (segment : Segment) :
    ¬segment.Closes text := by
  rintro ⟨front, split⟩
  obtain ⟨gap, blank, textEq⟩ := Text.exists_trimEnd_append text
  rw [← split, List.append_assoc] at textEq
  have silent := Text.silent_of_firstValue?_eq_none missed (segment.chars ++ gap)
    (textEq ▸ List.suffix_append _ _) (by simp [segment.chars_ne_nil])
  rw [List.append_nil, segment.closingSegment?_append blank] at silent
  cases silent

end Searches

/-! ## Short forms -/

/-- A type is shortened to its last segment, or it ends in none and is trimmed. -/
theorem short_cases (typeName : String) :
    (∃ segment : Segment, segment.IsLastOf typeName.toList ∧ short typeName = segment.text) ∨
      (∀ segment : Segment, ¬segment.Closes typeName.toList) ∧
        short typeName = Text.trimmed typeName := by
  cases searched : Text.firstValue? closingSegment? typeName.toList with
  | none => exact Or.inr ⟨not_closes_of_firstValue?_eq_none searched, by rw [short, searched]⟩
  | some chars =>
      obtain ⟨segment, rfl, isLast⟩ := exists_isLastOf searched
      exact Or.inl ⟨segment, isLast, by rw [short, searched, Segment.text]⟩

theorem Segment.IsLastOf.short_eq
    {segment : Segment}
    {typeName : String}
    (isLast : segment.IsLastOf typeName.toList) :
    short typeName = segment.text := by
  rcases short_cases typeName with ⟨found, foundIsLast, shortEq⟩ | ⟨unclosed, -⟩
  · rw [shortEq, text, text, isLast.chars_eq foundIsLast]
  · exact absurd isLast.closes (unclosed segment)

theorem short_eq_trimmed
    {typeName : String}
    (unclosed : ∀ segment : Segment, ¬segment.Closes typeName.toList) :
    short typeName = Text.trimmed typeName := by
  rcases short_cases typeName with ⟨found, isLast, -⟩ | ⟨-, shortEq⟩
  · exact absurd isLast.closes (unclosed found)
  · exact shortEq

theorem Segment.short_text (segment : Segment) : short segment.text = segment.text := by
  apply IsLastOf.short_eq
  rw [toList_text]
  exact isLastOf_self

theorem short_short (typeName : String) : short (short typeName) = short typeName := by
  rcases short_cases typeName with ⟨segment, -, shortEq⟩ | ⟨unclosed, shortEq⟩
  · rw [shortEq, segment.short_text]
  · rw [shortEq, short_eq_trimmed, Text.trimmed_trimmed]
    intro segment closes
    rw [Text.trimmed, String.toList_ofList] at closes
    exact unclosed segment closes.of_trim

/-- For every text in front of a dot and every segment behind it, with blank characters
at the end or without, the short form is that segment; and for every text, the short
form is its own short form. -/
theorem short_is_last_segment :
    (∀ (qualifier : String) (segment : Segment) (gap : String), Text.allBlank gap = true →
      short (qualifier ++ "." ++ segment.text ++ gap) = segment.text) ∧
    ∀ typeName : String, short (short typeName) = short typeName := by
  refine ⟨?_, short_short⟩
  intro qualifier segment gap blank
  apply Segment.IsLastOf.short_eq
  rw [String.toList_append, String.toList_append, String.toList_append, segment.toList_text]
  exact Segment.isLastOf_qualified (List.all_eq_true.mp blank) qualifier.toList

/-- Entries in any number. -/
def sampleSegment : Segment where
  first := 'E'
  others := "ntry[]".toList
  variadic := true
  begins := by decide
  continues := by simp

/-- A qualifier with dots, brackets and a segment of its own in front of blank
characters, and a type that ends in no segment. -/
theorem sampleSegment_is_kept :
    Text.allBlank "\t\u00a0" = true ∧
      short ("java.Map<x[]... .y..." ++ "." ++ sampleSegment.text ++ "\t\u00a0") =
        "Entry[]..." ∧
      short " Map<K> " = "Map<K>" ∧ short (short " Map<K> ") = "Map<K>" := by
  obtain ⟨behindDot, stays⟩ := short_is_last_segment
  have blank : Text.allBlank "\t\u00a0" = true := by decide
  have trimmed : short " Map<K> " = "Map<K>" := by decide
  refine ⟨blank, ?_, trimmed, ?_⟩
  · rw [behindDot _ sampleSegment _ blank]
    decide
  · rw [stays, trimmed]

end TypeName
end JspCompletion
