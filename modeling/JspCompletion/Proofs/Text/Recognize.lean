import JspCompletion.Text.Recognize
import Mathlib.Data.List.Infix

/-!
# What recognisers find

The building blocks of recognisers are specified by the texts they accept.  A
search is then read part by part: a part in which no form begins is passed
over, and a form that is recognised contributes its value and leaves the rest.
-/

namespace JspCompletion
namespace Text

/-! ## Building blocks -/

section Spans

variable {keeps : Char → Bool} {chars rest : List Char}

/-- A span of characters that pass a test ends where the next one fails it. -/
theorem takeWhile_append_of_stop
    (inside : ∀ char ∈ chars, keeps char = true)
    (stops : ∀ char ∈ rest.head?, keeps char = false) :
    (chars ++ rest).takeWhile keeps = chars := by
  rw [List.takeWhile_append_of_pos inside]
  cases rest with
  | nil => simp
  | cons first tail => simp [stops first rfl]

theorem dropWhile_append_of_stop
    (inside : ∀ char ∈ chars, keeps char = true)
    (stops : ∀ char ∈ rest.head?, keeps char = false) :
    (chars ++ rest).dropWhile keeps = rest := by
  rw [List.dropWhile_append_of_pos inside]
  cases rest with
  | nil => rfl
  | cons first tail => simp [stops first rfl]

end Spans

section Marks

variable {chars : List Char} {mark : Char}

theorem forall_bne_of_not_mem
    (absent : mark ∉ chars) :
    ∀ char ∈ chars, (char != mark) = true := by
  intro char member
  rw [bne_iff_ne]
  rintro rfl
  exact absent member

/-- A span without a mark ends at the mark. -/
theorem takeWhile_append_mark
    (absent : mark ∉ chars)
    (rest : List Char) :
    (chars ++ mark :: rest).takeWhile (· != mark) = chars :=
  takeWhile_append_of_stop (forall_bne_of_not_mem absent) (by simp)

theorem dropWhile_append_mark
    (absent : mark ∉ chars)
    (rest : List Char) :
    (chars ++ mark :: rest).dropWhile (· != mark) = mark :: rest :=
  dropWhile_append_of_stop (forall_bne_of_not_mem absent) (by simp)

end Marks

@[simp] theorem after?_append (word rest : List Char) :
    after? word (word ++ rest) = some rest :=
  after?_eq_some_iff.mpr rfl

/-- Blank characters are dropped as long as they last. -/
theorem afterBlanks?_eq_some_iff
    {text rest : List Char} :
    afterBlanks? text = some rest ↔
      ∃ gap, gap ≠ [] ∧ (∀ char ∈ gap, isBlank char = true) ∧
        (∀ char ∈ rest.head?, isBlank char = false) ∧ text = gap ++ rest := by
  constructor
  · intro dropped
    cases text with
    | nil => cases dropped
    | cons char tail =>
        simp only [afterBlanks?] at dropped
        split at dropped
        · rename_i blank
          cases dropped
          refine ⟨char :: tail.takeWhile isBlank, by simp, ?_, ?_, ?_⟩
          · intro other member
            rcases List.mem_cons.mp member with rfl | later
            · exact blank
            · exact List.all_eq_true.mp List.all_takeWhile other later
          · intro other first
            have stops := List.head?_dropWhile_not isBlank tail
            rw [trimStart] at first
            rw [Option.mem_def.mp first] at stops
            simpa using stops
          · rw [trimStart, List.cons_append, List.takeWhile_append_dropWhile]
        · cases dropped
  · rintro ⟨gap, nonempty, blank, stops, rfl⟩
    obtain ⟨char, gap, rfl⟩ := List.exists_cons_of_ne_nil nonempty
    have trimmed : trimStart (gap ++ rest) = rest := by
      apply dropWhile_append_of_stop _ stops
      intro other member
      exact blank other (List.mem_cons_of_mem char member)
    rw [List.cons_append, afterBlanks?, if_pos (blank char List.mem_cons_self), trimmed]

/-- A value in double quotes reaches to the next double quote. -/
theorem quoted?_eq_some_iff
    {text value rest : List Char} :
    quoted? text = some (value, rest) ↔
      '"' ∉ value ∧ text = '"' :: (value ++ '"' :: rest) := by
  constructor
  · intro found
    unfold quoted? at found
    split at found
    · rename_i tail
      split at found
      · cases found
      · rename_i closer behind dropped
        cases found
        have closes : closer = '"' := by
          have stops := List.head?_dropWhile_not (· != '"') tail
          rw [dropped] at stops
          simpa using stops
        refine ⟨?_, ?_⟩
        · intro member
          have inside := List.all_eq_true.mp List.all_takeWhile '"' member
          simp at inside
        · subst closes
          rw [← dropped, List.takeWhile_append_dropWhile]
    · cases found
  · rintro ⟨unquoted, rfl⟩
    simp only [quoted?, dropWhile_append_mark unquoted, takeWhile_append_mark unquoted]

/-! ## Words in a text -/

section Words

variable {word chars rest : List Char}

/-- A word that begins in a part of a text ends in it when the character
behind the part does not belong to the word. -/
theorem prefix_of_prefix_append
    (foreign : ∀ char ∈ rest.head?, char ∉ word)
    (begins : word <+: chars ++ rest) :
    word <+: chars := by
  induction word generalizing chars with
  | nil => exact List.nil_prefix
  | cons first word inductionHypothesis =>
      cases chars with
      | nil =>
          cases rest with
          | nil => exact begins
          | cons char tail =>
              rw [List.nil_append, List.cons_prefix_cons] at begins
              exact absurd (begins.1 ▸ List.mem_cons_self) (foreign char rfl)
      | cons char chars =>
          rw [List.cons_append, List.cons_prefix_cons] at begins
          rw [List.cons_prefix_cons]
          refine ⟨begins.1, inductionHypothesis ?_ begins.2⟩
          intro other atFront member
          exact foreign other atFront (List.mem_cons_of_mem first member)

/-- A word does not arise across a character that does not belong to it. -/
theorem not_infix_append_cons
    {separator : Char}
    (foreign : separator ∉ word)
    (before : ¬word <:+: chars)
    (behind : ¬word <:+: rest) :
    ¬word <:+: chars ++ separator :: rest := by
  have notFrom (front : List Char) (begins : word <+: front ++ separator :: rest) :
      word <+: front := by
    apply prefix_of_prefix_append _ begins
    rintro char ⟨⟩
    exact foreign
  induction chars with
  | nil =>
      rw [List.nil_append, List.infix_cons_iff]
      rintro (begins | later)
      · exact before (notFrom [] begins).isInfix
      · exact behind later
  | cons char chars inductionHypothesis =>
      rw [List.cons_append, List.infix_cons_iff]
      rintro (begins | later)
      · exact before (notFrom (char :: chars) begins).isInfix
      · refine inductionHypothesis ?_ later
        intro inside
        exact before (inside.trans (List.suffix_cons char chars).isInfix)

end Words

/-! ## Searches -/

section Searches

variable {recognize? : List Char → Option (α × List Char)}
variable {text tail : List Char} {value : α}

/-- Places in a text, seen from the start of a longer text. -/
def shifted (distance : Nat) (places : List (Nat × α)) : List (Nat × α) :=
  places.map fun place => (place.1 + distance, place.2)

@[simp] theorem shifted_cons (distance : Nat) (place : Nat × α) (places : List (Nat × α)) :
    shifted distance (place :: places) =
      (place.1 + distance, place.2) :: shifted distance places := rfl

@[simp] theorem shifted_zero (places : List (Nat × α)) : shifted 0 places = places := by
  simp [shifted]

@[simp] theorem shifted_shifted (first second : Nat) (places : List (Nat × α)) :
    shifted first (shifted second places) = shifted (second + first) places := by
  simp [shifted, Nat.add_assoc]

@[simp] theorem map_snd_shifted (distance : Nat) (places : List (Nat × α)) :
    (shifted distance places).map (·.2) = places.map (·.2) := by
  simp [shifted]

/-- A search that counts from a position finds the same places, that much
further on, and the characters to be skipped can be dropped beforehand. -/
theorem occurrencesFrom_eq_shifted
    (position skip : Nat)
    (text : List Char) :
    occurrencesFrom recognize? position skip text =
      shifted (position + skip) (occurrences recognize? (text.drop skip)) := by
  induction text generalizing position skip with
  | nil => simp [occurrences, occurrencesFrom, shifted]
  | cons char rest inductionHypothesis =>
      cases skip with
      | succ skip =>
          rw [occurrencesFrom, inductionHypothesis, List.drop_succ_cons, Nat.add_assoc,
            Nat.add_comm 1 skip]
      | zero =>
          rw [List.drop_zero, Nat.add_zero, occurrences, occurrencesFrom, occurrencesFrom]
          split
          · rw [inductionHypothesis (position + 1), inductionHypothesis 1, shifted_shifted]
            congr 1
            omega
          · rename_i value tail found
            rw [inductionHypothesis (position + 1), inductionHypothesis (0 + 1), shifted_cons,
              shifted_shifted, Nat.zero_add]
            congr 2
            omega

theorem occurrences_cons_of_none
    {char : Char}
    (silent : recognize? (char :: text) = none) :
    occurrences recognize? (char :: text) = shifted 1 (occurrences recognize? text) := by
  rw [occurrences, occurrencesFrom, silent]
  exact occurrencesFrom_eq_shifted 1 0 text

/-- A form at the start of a text is found there, and the search goes on behind
it. -/
theorem occurrences_append_of_some
    {read : List Char}
    (nonempty : read ≠ [])
    (found : recognize? (read ++ tail) = some (value, tail)) :
    occurrences recognize? (read ++ tail) =
      (0, value) :: shifted read.length (occurrences recognize? tail) := by
  obtain ⟨char, read, rfl⟩ := List.exists_cons_of_ne_nil nonempty
  rw [List.cons_append] at found ⊢
  have counted : (read ++ tail).length - tail.length = read.length := by
    rw [List.length_append, Nat.add_sub_cancel]
  rw [occurrences, occurrencesFrom, found]
  simp only [counted]
  rw [occurrencesFrom_eq_shifted, List.drop_left, List.length_cons, Nat.add_comm 1]

theorem valuesOf_cons_of_none
    {char : Char}
    (silent : recognize? (char :: text) = none) :
    valuesOf recognize? (char :: text) = valuesOf recognize? text := by
  rw [valuesOf, occurrences_cons_of_none silent, map_snd_shifted, valuesOf]

/-- A form at the start of a text contributes its value, and the search goes
on behind it. -/
theorem valuesOf_append_of_some
    {read : List Char}
    (nonempty : read ≠ [])
    (found : recognize? (read ++ tail) = some (value, tail)) :
    valuesOf recognize? (read ++ tail) = value :: valuesOf recognize? tail := by
  rw [valuesOf, occurrences_append_of_some nonempty found, List.map_cons, map_snd_shifted,
    valuesOf]

variable {word silent rest : List Char}

/-- No form begins in a part of a text. -/
def Silent
    (recognize? : List Char → Option (α × List Char))
    (silent rest : List Char) : Prop :=
  ∀ back, back <:+ silent → back ≠ [] → recognize? (back ++ rest) = none

@[simp] theorem silent_nil : Silent recognize? [] rest :=
  fun _ isBack nonempty => absurd (List.suffix_nil.mp isBack) nonempty

theorem Silent.cons
    {char : Char}
    (here : recognize? (char :: (silent ++ rest)) = none)
    (later : Silent recognize? silent rest) :
    Silent recognize? (char :: silent) rest := by
  intro back isBack nonempty
  rcases List.suffix_cons_iff.mp isBack with rfl | isLater
  · exact here
  · exact later back isLater nonempty

theorem Silent.append
    {more : List Char}
    (first : Silent recognize? silent (more ++ rest))
    (second : Silent recognize? more rest) :
    Silent recognize? (silent ++ more) rest := by
  intro back isBack nonempty
  rcases List.suffix_or_suffix_of_suffix isBack (List.suffix_append silent more) with
    inMore | ⟨front, rfl⟩
  · exact second back inMore nonempty
  · have isFront : front <:+ silent := List.suffix_append_self_iff.mp isBack
    by_cases empty : front = []
    · subst empty
      exact second more List.suffix_rfl nonempty
    · rw [List.append_assoc]
      exact first front isFront empty

theorem Silent.occurrences_append
    (silently : Silent recognize? silent rest) :
    occurrences recognize? (silent ++ rest) =
      shifted silent.length (occurrences recognize? rest) := by
  induction silent with
  | nil => simp
  | cons char silent inductionHypothesis =>
      have here : recognize? (char :: (silent ++ rest)) = none :=
        silently (char :: silent) List.suffix_rfl (by simp)
      have later : Silent recognize? silent rest :=
        fun back isBack => silently back (isBack.trans (List.suffix_cons char silent))
      rw [List.cons_append, occurrences_cons_of_none here, inductionHypothesis later,
        shifted_shifted, List.length_cons]

/-- A part of a text in which no form begins is passed over. -/
theorem valuesOf_append_of_none
    (silently : Silent recognize? silent rest) :
    valuesOf recognize? (silent ++ rest) = valuesOf recognize? rest := by
  rw [valuesOf, silently.occurrences_append, map_snd_shifted, valuesOf]

/-- The first value found is read behind a part in which no form begins. -/
theorem exists_of_firstValue?_eq_some
    (found : firstValue? recognize? text = some value) :
    ∃ front back tail, text = front ++ back ∧ Silent recognize? front back ∧
      recognize? back = some (value, tail) := by
  induction text with
  | nil => cases found
  | cons char text inductionHypothesis =>
      rw [firstValue?] at found
      split at found
      · rename_i tail here
        cases found
        exact ⟨[], char :: text, tail, rfl, silent_nil, here⟩
      · rename_i silentHere
        obtain ⟨front, back, tail, rfl, silently, later⟩ := inductionHypothesis found
        exact ⟨char :: front, back, tail, rfl, silently.cons silentHere, later⟩

/-- A search fails only where no form begins. -/
theorem silent_of_firstValue?_eq_none
    (missed : firstValue? recognize? text = none) :
    Silent recognize? text [] := by
  induction text with
  | nil => exact silent_nil
  | cons char text inductionHypothesis =>
      rw [firstValue?] at missed
      split at missed
      · cases missed
      · rename_i silentHere
        exact (inductionHypothesis missed).cons (by rwa [List.append_nil])

/-- The forms all begin with a word. -/
def BeginWith (recognize? : List Char → Option (α × List Char)) (word : List Char) : Prop :=
  ∀ text found, recognize? text = some found → word <+: text

theorem BeginWith.eq_none
    (begins : BeginWith recognize? word)
    (absent : ¬word <+: text) :
    recognize? text = none := by
  rw [Option.eq_none_iff_forall_ne_some]
  intro found recognized
  exact absent (begins text found recognized)

/-- Where the first character of the word does not occur, no form begins. -/
theorem BeginWith.silent_of_not_mem
    {first : Char}
    (begins : BeginWith recognize? (first :: word))
    (absent : first ∉ silent) :
    Silent recognize? silent rest := by
  intro back isBack nonempty
  apply begins.eq_none
  intro found
  obtain ⟨char, back, rfl⟩ := List.exists_cons_of_ne_nil nonempty
  rw [List.cons_append, List.cons_prefix_cons] at found
  apply absent
  rw [found.1]
  exact isBack.mem List.mem_cons_self

/-- Where the word does not occur, a form begins only if the word is completed
behind the part, which its next character excludes. -/
theorem BeginWith.silent_of_not_infix
    {first : Char}
    (begins : BeginWith recognize? (first :: word))
    (absent : ¬first :: word <:+: silent)
    (foreign : ∀ char ∈ rest.head?, char ∉ word) :
    Silent recognize? silent rest := by
  intro back isBack nonempty
  apply begins.eq_none
  intro found
  obtain ⟨char, back, rfl⟩ := List.exists_cons_of_ne_nil nonempty
  rw [List.cons_append, List.cons_prefix_cons] at found
  have ends : word <+: back := prefix_of_prefix_append foreign found.2
  have whole : first :: word <+: char :: back := by
    rw [List.cons_prefix_cons]
    exact ⟨found.1, ends⟩
  exact absent (whole.isInfix.trans isBack.isInfix)

theorem BeginWith.valuesOf_append_of_not_mem
    {first : Char}
    (begins : BeginWith recognize? (first :: word))
    (absent : first ∉ silent) :
    valuesOf recognize? (silent ++ rest) = valuesOf recognize? rest :=
  valuesOf_append_of_none (begins.silent_of_not_mem absent)

theorem BeginWith.valuesOf_append_of_not_infix
    {first : Char}
    (begins : BeginWith recognize? (first :: word))
    (absent : ¬first :: word <:+: silent)
    (foreign : ∀ char ∈ rest.head?, char ∉ word) :
    valuesOf recognize? (silent ++ rest) = valuesOf recognize? rest :=
  valuesOf_append_of_none (begins.silent_of_not_infix absent foreign)

end Searches

end Text
end JspCompletion
