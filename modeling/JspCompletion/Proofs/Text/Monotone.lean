import JspCompletion.Proofs.Text.Lines

/-!
# Offsets follow positions

A position may name a line that the text does not have, a column behind the end of
its line, or one between the two code units of a character.  All of these stand for
a border of the text, and the further a position lies in the text, line by line and
column by column, the further lies its border.  A line that exists is never left.
-/

namespace JspCompletion
namespace Text

/-- The first position lies on an earlier line, or on the same line and no further
along. -/
def Position.NotBehind (position later : Position) : Prop :=
  position.line < later.line ∨
    position.line = later.line ∧ position.character ≤ later.character

theorem size_le_of_isPrefix
    {front text : List Char}
    (isFront : front <+: text) :
    size front ≤ size text := by
  obtain ⟨back, rfl⟩ := isFront
  rw [size_append]
  exact Nat.le_add_right _ _

/-! ## Within a line -/

/-- More characters start before a later column. -/
theorem columnSize_mono
    {column later : Nat}
    (ordered : column ≤ later)
    (line : List Char) :
    columnSize column line ≤ columnSize later line := by
  induction line generalizing column later with
  | nil => rw [columnSize, columnSize]
  | cons char rest inductionHypothesis =>
      cases column with
      | zero =>
          rw [columnSize]
          exact Nat.zero_le _
      | succ column =>
          obtain ⟨later, rfl⟩ := Nat.exists_eq_add_one_of_ne_zero (Nat.ne_zero_of_lt ordered)
          have remaining := inductionHypothesis (Nat.sub_le_sub_right ordered (unitCount char))
          rw [columnSize, columnSize]
          exact Nat.add_le_add_left remaining _

theorem columnSize_le_size
    (column : Nat)
    (line : List Char) :
    columnSize column line ≤ size line := by
  obtain ⟨front, isFront, sizeEq⟩ := exists_columnSize_eq column line
  rw [sizeEq]
  exact size_le_of_isPrefix isFront

/-! ## From line to line -/

theorem offsetAt_le_size
    (line column : Nat)
    (text : List Char) :
    offsetAt line column text ≤ size text := by
  obtain ⟨front, isFront, sizeEq⟩ := exists_offsetAt_eq line column text
  rw [sizeEq]
  exact size_le_of_isPrefix isFront

/-- The columns of the first line end before its line feed. -/
theorem offsetAt_zero_le
    (column : Nat)
    (text : List Char) :
    offsetAt 0 column text ≤ size (text.takeWhile (· != '\n')) :=
  (columnSize_le_size column (firstLine text)).trans
    (size_le_of_isPrefix (withoutReturn_isPrefix _))

/-- The offsets of other lines lie behind the first line. -/
theorem size_takeWhile_le_offsetAt_succ
    (line column : Nat)
    (text : List Char) :
    size (text.takeWhile (· != '\n')) ≤ offsetAt (line + 1) column text := by
  rw [offsetAt]
  split
  · exact size_le_of_isPrefix (List.takeWhile_prefix _)
  · omega

theorem offsetAt_mono
    {line later column other : Nat}
    (ordered : line < later ∨ line = later ∧ column ≤ other)
    (text : List Char) :
    offsetAt line column text ≤ offsetAt later other text := by
  induction line generalizing later text with
  | zero =>
      cases later with
      | zero =>
          have sameLine : column ≤ other := by omega
          exact columnSize_mono sameLine (firstLine text)
      | succ later =>
          exact (offsetAt_zero_le column text).trans
            (size_takeWhile_le_offsetAt_succ later other text)
  | succ line inductionHypothesis =>
      obtain ⟨later, rfl⟩ : ∃ before, later = before + 1 := ⟨later - 1, by omega⟩
      rw [offsetAt, offsetAt]
      cases text.dropWhile (· != '\n') with
      | nil => exact Nat.le_refl _
      | cons newline below =>
          have belowOrdered : line < later ∨ line = later ∧ column ≤ other := by omega
          exact Nat.add_le_add_left (inductionHypothesis belowOrdered below) _

/-- The offset of a position on a line that exists lies between the start of the line
and the end of its content. -/
theorem exists_line_around
    {text content : List Char}
    {position : Position}
    (isLine : (lineContents text)[position.line]? = some content) :
    ∃ above below, text = above ++ content ++ below ∧
      above.count '\n' = position.line ∧ EndsLine above ∧
      size above ≤ offsetOf text position ∧
      offsetOf text position ≤ size (above ++ content) := by
  rw [lineContents, List.getElem?_map] at isLine
  obtain ⟨line, foundLine, rfl⟩ := Option.map_eq_some_iff.mp isLine
  obtain ⟨above, below, textEq, -, counted, endsLine, offsetEq⟩ := exists_of_line foundLine
  obtain ⟨dropped, lineEq⟩ := withoutReturn_isPrefix line
  have within := columnSize_le_size position.character (withoutReturn line)
  refine ⟨above, dropped ++ below, ?_, counted, endsLine, ?_, ?_⟩
  · rw [textEq]
    nth_rewrite 1 [← lineEq]
    simp
  · rw [offsetOf, offsetEq]
    exact Nat.le_add_right _ _
  · rw [offsetOf, offsetEq, size_append]
    exact Nat.add_le_add_left within _

/-- For every text: of two positions the one that is not behind stands for the smaller
offset or the same; and any position stands for a border of the text, which on a
line that exists lies between the start of the line and the end of its content,
in front of the line ending. -/
theorem offsets_follow_positions (text : List Char) :
    (∀ position later : Position, position.NotBehind later →
      offsetOf text position ≤ offsetOf text later) ∧
    ∀ position, offsetOf text position ≤ size text ∧
      isBorder text (offsetOf text position) = true ∧
      ∀ content, (lineContents text)[position.line]? = some content →
        ∃ above below, text = above ++ content ++ below ∧
          above.count '\n' = position.line ∧ EndsLine above ∧
          size above ≤ offsetOf text position ∧
          offsetOf text position ≤ size (above ++ content) := by
  constructor
  · intro position later ordered
    exact offsetAt_mono ordered text
  · intro position
    refine ⟨offsetAt_le_size _ _ text, ?_, fun content isLine => exists_line_around isLine⟩
    obtain ⟨front, ⟨back, textEq⟩, sizeEq⟩ :=
      exists_offsetAt_eq position.line position.character text
    exact (isBorder_iff ..).mpr ⟨front, back, textEq.symm, sizeEq⟩

/-- In the sample a position between the two units of a character, one behind the end of
its line and one behind the last line follow each other, and the second one stays in
front of the line feed. -/
theorem sampleLines_offsets_follow :
    Position.NotBehind ⟨1, 3⟩ ⟨1, 99⟩ ∧ Position.NotBehind ⟨1, 99⟩ ⟨9, 0⟩ ∧
      offsetOf sampleLines ⟨1, 3⟩ ≤ offsetOf sampleLines ⟨1, 99⟩ ∧
      offsetOf sampleLines ⟨1, 99⟩ ≤ offsetOf sampleLines ⟨9, 0⟩ ∧
      (lineContents sampleLines)[1]? = some "$é𝄞x".toList ∧
      ∃ above below, sampleLines = above ++ "$é𝄞x".toList ++ below ∧
        above.count '\n' = 1 ∧ EndsLine above ∧
        size above ≤ offsetOf sampleLines ⟨1, 99⟩ ∧
        offsetOf sampleLines ⟨1, 99⟩ ≤ size (above ++ "$é𝄞x".toList) := by
  have first : Position.NotBehind ⟨1, 3⟩ ⟨1, 99⟩ := Or.inr (by decide)
  have second : Position.NotBehind ⟨1, 99⟩ ⟨9, 0⟩ := Or.inl (by decide)
  have isLine : (lineContents sampleLines)[1]? = some "$é𝄞x".toList := by decide
  obtain ⟨follow, within⟩ := offsets_follow_positions sampleLines
  exact ⟨first, second, follow _ _ first, follow _ _ second, isLine,
    (within ⟨1, 99⟩).2.2 _ isLine⟩

end Text
end JspCompletion
