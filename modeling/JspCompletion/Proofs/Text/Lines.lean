import JspCompletion.Proofs.Text.Bytes

/-!
# Lines, columns and offsets

The lines of a text are what lies between its line feeds, and a column of a line
counts the code units in front on its content.  A column within the content that
does not fall between the two units of a character marks a border between
characters, and the position of that border is the one that was asked for.

With the other direction, that the position of a border stands for that border,
positions and offsets are inverse to each other.  No number of a position exceeds
the size of the text in bytes.
-/

namespace JspCompletion
namespace Text

/-! ## Columns of a line -/

/-- The contents of the lines of a text. -/
def lineContents (text : List Char) : List (List Char) :=
  (text.splitOn '\n').map withoutReturn

/-- The column falls between the two code units of a character. -/
def SplitsPair (line : List Char) (column : Nat) : Prop :=
  ∃ front char back, line = front ++ char :: back ∧
    units front < column ∧ column < units front + unitCount char

theorem SplitsPair.cons
    {line : List Char}
    {column : Nat}
    (splits : SplitsPair line column)
    (first : Char) :
    SplitsPair (first :: line) (unitCount first + column) := by
  obtain ⟨front, char, back, rfl, behind, inFront⟩ := splits
  refine ⟨first :: front, char, back, rfl, ?_, ?_⟩
  · rw [units_cons]
    omega
  · rw [units_cons]
    omega

/-- Any other column of a line has a front part of the line in front of it. -/
theorem exists_units_eq
    {line : List Char}
    {column : Nat}
    (within : column ≤ units line)
    (whole : ¬SplitsPair line column) :
    ∃ front, front <+: line ∧ units front = column := by
  induction line generalizing column with
  | nil =>
      rw [units_nil] at within
      refine ⟨[], List.nil_prefix, ?_⟩
      rw [units_nil]
      omega
  | cons first rest inductionHypothesis =>
      by_cases start : column = 0
      · exact ⟨[], List.nil_prefix, start.symm⟩
      · have behindFirst : unitCount first ≤ column := by
          by_contra inside
          apply whole
          refine ⟨[], first, rest, rfl, ?_, ?_⟩
          · rw [units_nil]
            omega
          · rw [units_nil]
            omega
        obtain ⟨later, rfl⟩ := Nat.exists_eq_add_of_le behindFirst
        have withinRest : later ≤ units rest := by
          rw [units_cons] at within
          omega
        obtain ⟨front, isFront, unitsEq⟩ :=
          inductionHypothesis withinRest fun splits => whole (splits.cons first)
        refine ⟨first :: front, (List.prefix_cons_inj first).mpr isFront, ?_⟩
        rw [units_cons, unitsEq]

/-- A column with a front part of the line in front of it falls into no pair. -/
theorem not_splitsPair
    {line front : List Char}
    (isFront : front <+: line) :
    ¬SplitsPair line (units front) := by
  rintro ⟨other, char, back, rfl, behind, inFront⟩
  rcases List.prefix_or_prefix_of_prefix isFront (List.prefix_append other (char :: back)) with
    ⟨more, rfl⟩ | ⟨more, rfl⟩
  · rw [units_append] at behind
    omega
  · cases more with
    | nil =>
        rw [List.append_nil] at behind
        omega
    | cons next more =>
        have same : next = char :=
          (List.cons_prefix_cons.mp ((List.prefix_append_right_inj other).mp isFront)).1
        rw [units_append, units_cons, same] at inFront
        omega

/-! ## Lines of a text -/

/-- A text ends where a line begins. -/
def EndsLine (text : List Char) : Prop :=
  text = [] ∨ ∃ above, text = above ++ ['\n']

theorem EndsLine.cons_line
    {below line : List Char}
    (endsLine : EndsLine below) :
    EndsLine (line ++ '\n' :: below) := by
  right
  rcases endsLine with rfl | ⟨above, rfl⟩
  · exact ⟨line, rfl⟩
  · exact ⟨line ++ '\n' :: above, by simp⟩

/-- What is read back from the end of a text that goes on within a line. -/
theorem takeWhile_reverse_append
    {above front : List Char}
    (endsLine : EndsLine above)
    (oneLine : '\n' ∉ front) :
    (above ++ front).reverse.takeWhile (· != '\n') = front.reverse := by
  have ordinary : front.reverse.takeWhile (· != '\n') = front.reverse := by
    rw [List.takeWhile_eq_self_iff]
    apply forall_bne_newline
    rwa [List.mem_reverse]
  rcases endsLine with rfl | ⟨above, rfl⟩
  · rwa [List.nil_append]
  · rwa [List.append_assoc, List.singleton_append, takeWhile_reverse_newline]

/-- A line stands behind as many line feeds as its number says, and its columns
are counted from there. -/
theorem exists_of_line
    {text line : List Char}
    {number : Nat}
    (isLine : (text.splitOn '\n')[number]? = some line) :
    ∃ above below, text = above ++ line ++ below ∧ '\n' ∉ line ∧
      above.count '\n' = number ∧ EndsLine above ∧
      ∀ column, offsetAt number column text =
        size above + columnSize column (withoutReturn line) := by
  induction number generalizing text with
  | zero =>
      by_cases several : '\n' ∈ text
      · obtain ⟨first, rest, rfl, oneLine⟩ := List.eq_append_cons_of_mem several
        rw [List.splitOn_append_cons_self_of_not_mem oneLine, List.getElem?_cons_zero] at isLine
        obtain rfl := Option.some.inj isLine
        refine ⟨[], '\n' :: rest, rfl, oneLine, rfl, Or.inl rfl, ?_⟩
        intro column
        rw [offsetAt, firstLine, List.takeWhile_append_of_pos (forall_bne_newline oneLine),
          List.takeWhile_cons_of_neg (by decide), List.append_nil, size_nil, Nat.zero_add]
      · rw [List.splitOn_eq_singleton several, List.getElem?_cons_zero] at isLine
        obtain rfl := Option.some.inj isLine
        refine ⟨[], [], by simp, several, rfl, Or.inl rfl, ?_⟩
        intro column
        rw [offsetAt, firstLine, List.takeWhile_eq_self_iff.mpr (forall_bne_newline several),
          size_nil, Nat.zero_add]
  | succ number inductionHypothesis =>
      by_cases several : '\n' ∈ text
      · obtain ⟨first, rest, rfl, oneLine⟩ := List.eq_append_cons_of_mem several
        rw [List.splitOn_append_cons_self_of_not_mem oneLine, List.getElem?_cons_succ] at isLine
        obtain ⟨above, below, rfl, lineFree, counted, endsLine, offsetEq⟩ :=
          inductionHypothesis isLine
        refine ⟨first ++ '\n' :: above, below, by simp, lineFree, ?_, endsLine.cons_line, ?_⟩
        · rw [List.count_append, List.count_cons_self, List.count_eq_zero.mpr oneLine, counted,
            Nat.zero_add]
        · intro column
          have ordinary := forall_bne_newline oneLine
          rw [offsetAt, List.dropWhile_append_of_pos ordinary,
            List.takeWhile_append_of_pos ordinary, List.dropWhile_cons_of_neg (by decide),
            List.takeWhile_cons_of_neg (by decide), List.append_nil]
          simp only [offsetEq, size_append, size_cons]
          rw [show '\n'.utf8Size = 1 from rfl]
          omega
      · rw [List.splitOn_eq_singleton several] at isLine
        simp at isLine

/-! ## Positions and offsets -/

/-- A column that marks a border of a line is the column of that border. -/
theorem positionOf_offsetOf
    {text content : List Char}
    {position : Position}
    (isLine : (lineContents text)[position.line]? = some content)
    (within : position.character ≤ units content)
    (whole : ¬SplitsPair content position.character) :
    positionOf text (offsetOf text position) = position := by
  rw [lineContents, List.getElem?_map] at isLine
  obtain ⟨line, foundLine, rfl⟩ := Option.map_eq_some_iff.mp isLine
  obtain ⟨above, below, textEq, oneLine, counted, endsLine, offsetEq⟩ :=
    exists_of_line foundLine
  obtain ⟨front, ⟨rest, contentEq⟩, unitsEq⟩ := exists_units_eq within whole
  obtain ⟨dropped, lineEq⟩ := withoutReturn_isPrefix line
  have split : text = (above ++ front) ++ (rest ++ dropped ++ below) := by
    rw [textEq, ← lineEq, ← contentEq]
    simp
  have frontFree : '\n' ∉ front := by
    intro member
    apply oneLine
    rw [← lineEq, ← contentEq, List.append_assoc]
    exact List.mem_append_left _ member
  have offset : offsetOf text position = size (above ++ front) := by
    rw [offsetOf, offsetEq, ← unitsEq, ← contentEq, columnSize_units_append, size_append]
  rw [positionOf, offset]
  nth_rewrite 1 2 [split]
  rw [before_size_append, takeWhile_reverse_append endsLine frontFree, units_reverse, unitsEq,
    List.count_append, counted, List.count_eq_zero.mpr frontFree, Nat.add_zero]

theorem unitCount_le_utf8Size (char : Char) : unitCount char ≤ char.utf8Size := by
  unfold unitCount Char.utf8Size
  simp only [UInt32.le_iff_toNat_le, UInt32.toNat_ofNatLT]
  change (if char.val.toNat < _ then _ else _) ≤ _
  repeat' split
  all_goals omega

theorem count_le_size
    (char : Char)
    (text : List Char) :
    text.count char ≤ size text := by
  induction text with
  | nil => simp
  | cons first rest inductionHypothesis =>
      have positive := first.utf8Size_pos
      rw [List.count_cons, size_cons]
      split <;> omega

/-- Line feeds and the units behind the last one are counted by different bytes. -/
theorem count_add_units_le
    (behind : List Char) :
    behind.count '\n' + units (behind.takeWhile (· != '\n')) ≤ size behind := by
  induction behind with
  | nil => simp
  | cons char rest inductionHypothesis =>
      by_cases newline : char = '\n'
      · have counted := count_le_size '\n' rest
        rw [newline, List.count_cons_self, List.takeWhile_cons_of_neg (by decide), units_nil,
          size_cons, show '\n'.utf8Size = 1 from rfl]
        omega
      · have narrow := unitCount_le_utf8Size char
        rw [List.count_cons_of_ne newline, List.takeWhile_cons, if_pos (bne_iff_ne.mpr newline),
          units_cons, size_cons]
        omega

theorem line_add_character_le
    (text : List Char)
    (offset : Nat) :
    (positionOf text offset).line + (positionOf text offset).character ≤ size text := by
  have counted := count_add_units_le (before offset text).reverse
  have whole := congrArg size (before_append_after offset text)
  rw [List.count_reverse, size_reverse] at counted
  rw [size_append] at whole
  rw [positionOf]
  dsimp only
  omega

/-- For every text: the position of a border between characters stands for that
border, unless it lies directly behind a carriage return that is followed by a
line feed or by nothing; a position on a line that exists, within the content of
the line and not between the two units of a character, stands for a border whose
position it is; and the two numbers of a position add up to no more than the size
of the text. -/
theorem positions_and_offsets_inverse
    (text : List Char) :
    (∀ offset, isBorder text offset = true →
      MarksColumn (before offset text) (after offset text) →
      offsetOf text (positionOf text offset) = offset) ∧
    (∀ position content, (lineContents text)[position.line]? = some content →
      position.character ≤ units content → ¬SplitsPair content position.character →
      positionOf text (offsetOf text position) = position) ∧
    ∀ offset, (positionOf text offset).line + (positionOf text offset).character ≤ size text := by
  refine ⟨?_, ?_, line_add_character_le text⟩
  · intro offset border marks
    obtain ⟨front, back, rfl, rfl⟩ := (isBorder_iff ..).mp border
    rw [before_size_append, after_size_append] at marks
    exact offsetOf_positionOf marks
  · intro position content isLine within whole
    exact positionOf_offsetOf isLine within whole

/-- Three lines, the first of which ends in a carriage return and a line feed, and
the second of which holds characters of two and four bytes. -/
def sampleLines : List Char :=
  "<p>\r\n$é𝄞x\nlast".toList

/-- Behind the character with two units, column and offset stand for each other. -/
theorem sampleLines_inverse :
    isBorder sampleLines 12 = true ∧
      MarksColumn (before 12 sampleLines) (after 12 sampleLines) ∧
      offsetOf sampleLines (positionOf sampleLines 12) = 12 ∧
      (lineContents sampleLines)[1]? = some "$é𝄞x".toList ∧
      ¬SplitsPair "$é𝄞x".toList 4 ∧
      positionOf sampleLines (offsetOf sampleLines ⟨1, 4⟩) = ⟨1, 4⟩ := by
  have border : isBorder sampleLines 12 = true := by decide
  have marks : MarksColumn (before 12 sampleLines) (after 12 sampleLines) := by
    intro returns
    exact absurd returns (by decide)
  have isLine : (lineContents sampleLines)[1]? = some "$é𝄞x".toList := by decide
  have whole : ¬SplitsPair "$é𝄞x".toList 4 :=
    not_splitsPair (List.prefix_append "$é𝄞".toList ['x'])
  have inverse := positions_and_offsets_inverse sampleLines
  exact ⟨border, marks, inverse.1 12 border marks, isLine, whole,
    inverse.2.1 ⟨1, 4⟩ _ isLine (by decide) whole⟩

end Text
end JspCompletion
