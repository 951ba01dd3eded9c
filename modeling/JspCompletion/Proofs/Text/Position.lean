import JspCompletion.Text.Position
import Mathlib.Data.List.Infix
import Mathlib.Data.List.TakeWhile

/-!
# Positions and byte offsets

A byte offset at which a front part of a text ends is a border between
characters.  Every position stands for such a border, and the position of a
border stands for that border again, unless it lies between a carriage return
and the end of its line: columns stop in front of the carriage return.
-/

namespace JspCompletion
namespace Text

/-! ## Cutting at a border -/

@[simp] theorem before_size_append
    (front back : List Char) :
    before (size front) (front ++ back) = front := by
  induction front with
  | nil =>
      cases back with
      | nil => rfl
      | cons char rest =>
          have positive := char.utf8Size_pos
          rw [List.nil_append, before, if_neg (by rw [size_nil]; omega)]
  | cons char rest inductionHypothesis =>
      rw [List.cons_append, before, size_cons, if_pos (by omega), Nat.add_sub_cancel_left,
        inductionHypothesis]

@[simp] theorem after_size_append
    (front back : List Char) :
    after (size front) (front ++ back) = back := by
  have whole := before_append_after (size front) (front ++ back)
  rwa [before_size_append, List.append_cancel_left_eq] at whole

theorem slice_size_append
    (front middle back : List Char) :
    slice (front ++ middle ++ back) (size front) (size front + size middle) = middle := by
  rw [slice, ← size_append, before_size_append, after_size_append]

/-- What lies between two offsets ends where the text before the second one
does. -/
theorem slice_suffix
    (text : List Char)
    (start stop : Nat) :
    slice text start stop <:+ before stop text :=
  ⟨before start (before stop text), before_append_after _ _⟩

/-! ## Code units -/

theorem unitCount_pos (char : Char) : 0 < unitCount char := by
  unfold unitCount
  split <;> omega

@[simp] theorem units_append
    (left right : List Char) :
    units (left ++ right) = units left + units right := by
  induction left with
  | nil => simp
  | cons char rest inductionHypothesis =>
      simp only [List.cons_append, units_cons, inductionHypothesis]
      omega

@[simp] theorem units_reverse
    (text : List Char) :
    units text.reverse = units text := by
  induction text with
  | nil => rfl
  | cons char rest inductionHypothesis =>
      simp only [List.reverse_cons, units_append, units_cons, units_nil, inductionHypothesis]
      omega

/-! ## Borders -/

/-- Columns count the units in front, so those of a front part of a line lead
behind that part. -/
theorem columnSize_units_append
    (front back : List Char) :
    columnSize (units front) (front ++ back) = size front := by
  induction front with
  | nil => cases back <;> rfl
  | cons char rest inductionHypothesis =>
      have positive := unitCount_pos char
      obtain ⟨column, columnEq⟩ : ∃ column, units (char :: rest) = column + 1 :=
        ⟨units (char :: rest) - 1, by rw [units_cons]; omega⟩
      have remaining : column + 1 - unitCount char = units rest := by
        rw [← columnEq, units_cons, Nat.add_sub_cancel_left]
      rw [columnEq, List.cons_append, columnSize, remaining, inductionHypothesis, size_cons]

/-- The characters of a line that start before a column are a front part of
it. -/
theorem exists_columnSize_eq
    (column : Nat)
    (line : List Char) :
    ∃ front, front <+: line ∧ columnSize column line = size front := by
  induction line generalizing column with
  | nil => exact ⟨[], List.nil_prefix, by rw [columnSize]; rfl⟩
  | cons char rest inductionHypothesis =>
      cases column with
      | zero => exact ⟨[], List.nil_prefix, by rw [columnSize]; rfl⟩
      | succ column =>
          obtain ⟨front, isFront, sizeEq⟩ :=
            inductionHypothesis (column + 1 - unitCount char)
          refine ⟨char :: front, (List.prefix_cons_inj char).mpr isFront, ?_⟩
          rw [columnSize, sizeEq, size_cons]

theorem withoutReturn_isPrefix (line : List Char) : withoutReturn line <+: line := by
  unfold withoutReturn
  split
  · exact List.dropLast_prefix line
  · exact List.prefix_refl line

/-- Every position stands for a border. -/
theorem exists_offsetAt_eq
    (line column : Nat)
    (text : List Char) :
    ∃ front, front <+: text ∧ offsetAt line column text = size front := by
  induction line generalizing text with
  | zero =>
      obtain ⟨front, isFront, sizeEq⟩ := exists_columnSize_eq column (firstLine text)
      have inText : firstLine text <+: text :=
        (withoutReturn_isPrefix _).trans (List.takeWhile_prefix _)
      exact ⟨front, isFront.trans inText, by rw [offsetAt, sizeEq]⟩
  | succ line inductionHypothesis =>
      rw [offsetAt]
      have split := List.takeWhile_append_dropWhile (p := (· != '\n')) (l := text)
      cases rest : text.dropWhile (· != '\n') with
      | nil => exact ⟨text, List.prefix_refl text, rfl⟩
      | cons newline below =>
          obtain ⟨front, isFront, sizeEq⟩ := inductionHypothesis below
          have isNewline : newline = '\n' := by
            have stops := List.head?_dropWhile_not (· != '\n') text
            rw [rest] at stops
            simpa using stops
          refine ⟨text.takeWhile (· != '\n') ++ newline :: front, ?_, ?_⟩
          · rw [rest] at split
            nth_rewrite 2 [← split]
            exact (List.prefix_append_right_inj _).mpr
              ((List.prefix_cons_inj newline).mpr isFront)
          · simp only [sizeEq, size_append, size_cons, isNewline]
            rw [show '\n'.utf8Size = 1 from rfl]
            omega

theorem forall_bne_newline
    {line : List Char}
    (oneLine : '\n' ∉ line) :
    ∀ char ∈ line, (char != '\n') = true := by
  intro char member
  rw [bne_iff_ne]
  rintro rfl
  exact oneLine member

/-- Between `front` and `back` no line ends behind a carriage return. -/
def MarksColumn (front back : List Char) : Prop :=
  front.getLast? = some '\r' → back.head? ≠ none ∧ back.head? ≠ some '\n'

/-- A border that marks a column lies on the content of its line. -/
theorem MarksColumn.prefix_firstLine
    {front back : List Char}
    (marks : MarksColumn front back)
    (oneLine : '\n' ∉ front) :
    front <+: firstLine (front ++ back) := by
  rw [firstLine, List.takeWhile_append_of_pos (forall_bne_newline oneLine), withoutReturn]
  split
  next returns =>
    cases back with
    | nil =>
        rw [List.takeWhile_nil, List.append_nil] at returns
        exact absurd rfl (marks returns).1
    | cons char rest =>
        by_cases newline : char = '\n'
        · rw [newline, List.takeWhile_cons_of_neg (by decide), List.append_nil] at returns
          exact absurd (congrArg some newline) (marks returns).2
        · have goesOn : (char :: rest).takeWhile (· != '\n') =
              char :: rest.takeWhile (· != '\n') :=
            List.takeWhile_cons_of_pos (bne_iff_ne.mpr newline)
          rw [goesOn, List.dropLast_append_of_ne_nil (List.cons_ne_nil _ _)]
          exact List.prefix_append _ _
  next => exact List.prefix_append _ _

/-- The last line of a text does not depend on the lines above. -/
theorem takeWhile_reverse_newline
    (above line : List Char) :
    (above ++ '\n' :: line).reverse.takeWhile (· != '\n') =
      line.reverse.takeWhile (· != '\n') := by
  rw [List.reverse_append, List.reverse_cons, List.append_assoc, List.takeWhile_append]
  split
  next whole =>
    have all := (List.takeWhile_prefix _).eq_of_length whole
    rw [all, List.singleton_append, List.takeWhile_cons_of_neg (by decide), List.append_nil]
  next => rfl

/-- The position of a border that marks a column stands for that border. -/
theorem offsetOf_positionOf
    {front back : List Char}
    (marks : MarksColumn front back) :
    offsetOf (front ++ back) (positionOf (front ++ back) (size front)) = size front := by
  rw [positionOf, offsetOf, before_size_append]
  generalize lines : front.count '\n' = line
  -- Line by line: the column is read off the last line, which lines above leave alone.
  induction line generalizing front with
  | zero =>
      have oneLine : '\n' ∉ front := List.count_eq_zero.mp lines
      obtain ⟨tail, tailEq⟩ := marks.prefix_firstLine oneLine
      have wholeLine : front.reverse.takeWhile (· != '\n') = front.reverse :=
        List.takeWhile_eq_self_iff.mpr
          (forall_bne_newline fun member => oneLine (List.mem_reverse.mp member))
      rw [wholeLine, units_reverse, offsetAt, ← tailEq, columnSize_units_append]
  | succ line inductionHypothesis =>
      have some_newline : '\n' ∈ front := by
        rw [← List.count_pos_iff, lines]
        omega
      obtain ⟨above, below, rfl, firstNewline⟩ := List.eq_append_cons_of_mem some_newline
      have marksBelow : MarksColumn below back := by
        intro returns
        apply marks
        rw [List.getLast?_append, List.getLast?_cons, returns]
        rfl
      have linesBelow : below.count '\n' = line := by
        simpa [List.count_eq_zero.mpr firstNewline] using lines
      have later := inductionHypothesis marksBelow linesBelow
      have ordinary := forall_bne_newline firstNewline
      rw [takeWhile_reverse_newline, List.append_assoc, List.cons_append, offsetAt,
        List.dropWhile_append_of_pos ordinary, List.takeWhile_append_of_pos ordinary]
      simp only [List.dropWhile_cons_of_neg, List.takeWhile_cons_of_neg, bne_self_eq_false,
        Bool.false_eq_true, not_false_eq_true, List.append_nil]
      change size above + 1 + offsetAt line _ (below ++ back) = _
      rw [later, size_append, size_cons]
      change _ = _ + (1 + _)
      omega

end Text
end JspCompletion
