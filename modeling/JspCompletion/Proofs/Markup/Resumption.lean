import JspCompletion.Proofs.Markup.Classification
import JspCompletion.Proofs.Text.Recognize

/-!
# Where the pass starts afresh

The pass that classifies cursors looks ahead, to tell one opener from another,
and back, for a backslash in front of an expression, the name of a tag or the
name of an attribute.  Once it is back in template text neither reaches across:
whatever the text in front was, well-formed or not, the rest is classified as if
it stood alone, with its positions shifted.

This holds unless the text in front ends in the beginning of an opener that the
pass takes for template text, or in a backslash.  A tag behind such a text is
recognised in any case: its bracket completes none of these.
-/

namespace JspCompletion
namespace Markup

/-- The context in a text that stands a distance further behind. -/
def CursorContext.shift (distance : Nat) : CursorContext → CursorContext
  | text => .text
  | ignored => .ignored
  | tagName nameStart closing => .tagName (nameStart + distance) closing
  | attributeName tagStart tag => .attributeName (tagStart + distance) tag
  | attributeValue tag attr valueStart => .attributeValue tag attr (valueStart + distance)
  | expression start inString => .expression (start + distance) inString

namespace Cursor

open Grammar

/-! ## States in a shifted text -/

def TagHead.shift (distance : Nat) (tag : TagHead) : TagHead :=
  { tag with start := tag.start + distance }

def ValueHead.shift (distance : Nat) (head : ValueHead) : ValueHead :=
  { head with tag := head.tag.shift distance, start := head.start + distance }

namespace State

def shift (distance : Nat) : State → State
  | text => .text
  | tagName start nameStart closing => .tagName (start + distance) (nameStart + distance) closing
  | inTag tag => .inTag (tag.shift distance)
  | value head => .value (head.shift distance)
  | expression start depth literal within =>
      .expression (start + distance) depth literal (within.map (·.shift distance))
  | ignored terminator => .ignored terminator

theorem context_shift
    (distance : Nat)
    (state : State) :
    (state.shift distance).context = state.context.shift distance := by
  cases state with
  | inTag tag =>
      simp only [shift, context, TagHead.shift]
      split <;> rfl
  | _ => rfl

/-- The pass is behind an opening bracket. -/
def IsTagged : State → Prop
  | tagName _ _ _ | inTag _ | value _ | expression _ _ _ (some _) => True
  | text | expression _ _ _ none | ignored _ => False

end State

/-! ## Looking back -/

section LookingBack

variable {behind back : List Char}

theorem mem_dropWhile_of_not
    {keeps : Char → Bool}
    {char : Char}
    (stops : keeps char = false)
    (member : char ∈ behind) :
    char ∈ behind.dropWhile keeps := by
  have split := List.takeWhile_append_dropWhile (p := keeps) (l := behind)
  rw [← split, List.mem_append] at member
  rcases member with kept | dropped
  · have holds := List.all_eq_true.mp List.all_takeWhile char kept
    rw [stops] at holds
    cases holds
  · exact dropped

theorem dropWhile_append_of_mem
    {keeps : Char → Bool}
    {char : Char}
    (stops : keeps char = false)
    (member : char ∈ behind) :
    (behind ++ back).dropWhile keeps = behind.dropWhile keeps ++ back := by
  have remains := mem_dropWhile_of_not stops member
  rw [List.dropWhile_append, if_neg]
  rw [List.isEmpty_iff]
  exact List.ne_nil_of_mem remains

theorem takeWhile_append_of_mem
    (keeps : Char → Bool)
    {char : Char}
    (stops : keeps char = false)
    (member : char ∈ behind) :
    (behind ++ back).takeWhile keeps = behind.takeWhile keeps := by
  induction behind with
  | nil => cases member
  | cons first rest inductionHypothesis =>
      rw [List.cons_append, List.takeWhile_cons, List.takeWhile_cons]
      split
      · rename_i kept
        have differs : char ≠ first := by
          rintro rfl
          rw [stops] at kept
          cases kept
        rw [inductionHypothesis ((List.mem_cons.mp member).resolve_left differs)]
      · rfl

/-- The name of an attribute is not looked for in front of a tag. -/
theorem attributeBefore_append
    (tagged : '<' ∈ behind) :
    attributeBefore (behind ++ back) = attributeBefore behind := by
  have noSpace : Text.isMarkupSpace '<' = false := by decide
  have remains := mem_dropWhile_of_not noSpace tagged
  rw [attributeBefore_eq, attributeBefore_eq, dropWhile_append_of_mem noSpace tagged]
  cases split : behind.dropWhile Text.isMarkupSpace with
  | nil =>
      rw [split] at remains
      cases remains
  | cons first rest =>
      rw [List.cons_append, List.head?_cons, List.tail_cons, List.head?_cons, List.tail_cons]
      by_cases isEqual : some first = some '='
      · rw [split, Option.some.inj isEqual] at remains
        have inRest : '<' ∈ rest := (List.mem_cons.mp remains).resolve_left (by decide)
        have inName := mem_dropWhile_of_not noSpace inRest
        rw [if_pos isEqual, if_pos isEqual, dropWhile_append_of_mem noSpace inRest,
          takeWhile_append_of_mem isNameChar (by decide) inName]
      · rw [if_neg isEqual, if_neg isEqual]

theorem opensExpression_append
    (unescapedBack : unescaped back = true)
    (char : Char)
    (rest : List Char) :
    opensExpression (behind ++ back) char rest = opensExpression behind char rest := by
  unfold opensExpression
  cases behind with
  | nil =>
      rw [List.nil_append, unescapedBack]
      rfl
  | cons last behind => rfl

end LookingBack

/-! ## Passing over a shifted text -/

section Shifting

variable {back : List Char} (unescapedBack : unescaped back = true)

include unescapedBack

theorem stepText_shift
    (behind : List Char)
    (char : Char)
    (rest : List Char) :
    stepText (behind ++ back) char rest =
      ((stepText behind char rest).1.shift (Text.size back), (stepText behind char rest).2) := by
  unfold stepText
  rw [opensExpression_append unescapedBack, Text.size_append]
  simp only [Nat.add_right_comm]
  repeat' split
  all_goals rfl

omit unescapedBack in
theorem stepExpression_shift
    (distance start depth : Nat)
    (literal : Option Char)
    (within : Option ValueHead)
    (char : Char) :
    stepExpression (start + distance) depth literal (within.map (·.shift distance)) char =
      ((stepExpression start depth literal within char).1.shift distance,
        (stepExpression start depth literal within char).2) := by
  unfold stepExpression
  cases literal with
  | some quote =>
      dsimp only
      repeat' split
      all_goals rfl
  | none =>
      cases depth with
      | succ depth =>
          dsimp only
          repeat' split
          all_goals rfl
      | zero =>
          cases within with
          | none =>
              dsimp only [Option.map]
              repeat' split
              all_goals rfl
          | some head =>
              dsimp only [Option.map]
              repeat' split
              all_goals rfl

theorem step_shift
    {state : State}
    {behind : List Char}
    (tagged : state.IsTagged → '<' ∈ behind)
    (char : Char)
    (rest : List Char) :
    step (state.shift (Text.size back)) (behind ++ back) char rest =
      ((step state behind char rest).1.shift (Text.size back),
        (step state behind char rest).2) := by
  have textEq := stepText_shift unescapedBack behind char rest
  cases state with
  | text => exact textEq
  | tagName start nameStart closing =>
      have sameName : (behind ++ back).takeWhile isNameChar = behind.takeWhile isNameChar :=
        takeWhile_append_of_mem isNameChar (by decide) (tagged trivial)
      change step (.tagName (start + Text.size back) (nameStart + Text.size back) closing) _ _ _ = _
      simp only [step, textEq, sameName]
      repeat' split
      all_goals rfl
  | inTag tag =>
      have sameAttribute : attributeBefore (behind ++ back) = attributeBefore behind :=
        attributeBefore_append (tagged trivial)
      change step (.inTag (tag.shift (Text.size back))) _ _ _ = _
      simp only [step, textEq, sameAttribute, Text.size_append, Nat.add_right_comm]
      repeat' split
      all_goals rfl
  | value head =>
      have sameOpener : opensExpression (behind ++ back) char rest =
          opensExpression behind char rest :=
        opensExpression_append unescapedBack char rest
      change step (.value (head.shift (Text.size back))) _ _ _ = _
      simp only [step, ValueHead.shift, sameOpener, Text.size_append, Nat.add_right_comm]
      repeat' split
      all_goals rfl
  | expression start depth literal within => exact stepExpression_shift ..
  | ignored terminator =>
      change step (.ignored terminator) _ _ _ = _
      simp only [step]
      split <;> rfl

end Shifting

theorem eq_bracket_of_stepText
    {behind rest : List Char}
    {char : Char}
    (tagged : (stepText behind char rest).1.IsTagged) :
    char = '<' := by
  by_contra notBracket
  rw [stepText_of_ne notBracket] at tagged
  split at tagged <;> exact tagged

theorem not_tagged_stepExpression
    (start depth : Nat)
    (literal : Option Char)
    (char : Char) :
    ¬(stepExpression start depth literal none char).1.IsTagged := by
  unfold stepExpression
  cases literal with
  | some quote =>
      dsimp only
      repeat' split
      all_goals exact id
  | none =>
      cases depth with
      | zero =>
          dsimp only
          repeat' split
          all_goals exact id
      | succ depth =>
          dsimp only
          repeat' split
          all_goals exact id

/-- Only a bracket leads into a tag. -/
theorem tagged_step
    {state : State}
    {behind : List Char}
    (tagged : state.IsTagged → '<' ∈ behind)
    (char : Char)
    (rest : List Char)
    (taggedAfter : (step state behind char rest).1.IsTagged) :
    '<' ∈ char :: behind := by
  by_cases before : state.IsTagged
  · exact List.mem_cons_of_mem _ (tagged before)
  · have isBracket : char = '<' := by
      cases state with
      | text => exact eq_bracket_of_stepText taggedAfter
      | ignored terminator =>
          simp only [step] at taggedAfter
          split at taggedAfter <;> exact taggedAfter.elim
      | expression start depth literal within =>
          cases within with
          | some head => exact absurd trivial before
          | none =>
              exact absurd taggedAfter (not_tagged_stepExpression start depth literal char)
      | _ => exact absurd trivial before
    rw [isBracket]
    exact List.mem_cons_self

/-- A pass that is behind the text in front goes on as if there were none. -/
theorem run_shift
    {back : List Char}
    (unescapedBack : unescaped back = true)
    {state : State}
    {behind : List Char}
    (tagged : state.IsTagged → '<' ∈ behind)
    (skip : Nat)
    (text : List Char) :
    run (state.shift (Text.size back)) skip (behind ++ back) text =
      (run state skip behind text).shift (Text.size back) := by
  induction text generalizing state skip behind with
  | nil => rw [run_nil, run_nil]
  | cons char rest inductionHypothesis =>
      cases skip with
      | zero =>
          rw [run_zero_cons, run_zero_cons, step_shift unescapedBack tagged char rest]
          exact inductionHypothesis (tagged_step tagged char rest) _
      | succ skip =>
          rw [run_succ_cons, run_succ_cons]
          exact inductionHypothesis (fun inside => List.mem_cons_of_mem _ (tagged inside)) skip

/-! ## Looking ahead -/

/-- What a text may not end in for what follows to be read on its own. -/
def openEndings : List String :=
  ["$", "#", "\\", "<!", "<!-"]

/-- The text does not end in something that what follows gives another
meaning. -/
def EndsClean (text : List Char) : Prop :=
  ∀ ending ∈ openEndings, ¬ending.toList <:+ text

instance (text : List Char) : Decidable (EndsClean text) :=
  inferInstanceAs (Decidable (∀ ending ∈ openEndings, ¬ending.toList <:+ text))

theorem EndsClean.unescaped
    {text : List Char}
    (clean : EndsClean text) :
    Cursor.unescaped text.reverse = true := by
  rw [Cursor.unescaped, List.head?_reverse, bne_iff_ne]
  intro backslash
  obtain ⟨front, rfl⟩ := List.getLast?_eq_some_iff.mp backslash
  exact clean "\\" (by decide) (List.suffix_append front _)

/-- The states in which the pass has nothing half read. -/
def State.IsIdle : State → Prop
  | text | inTag _ => True
  | tagName _ _ _ | value _ | expression _ _ _ _ | ignored _ => False

/-- A pass that ends in a state has read a text to its end: it is between the
attributes of a tag, or in template text that does not end in something that what
follows gives another meaning. -/
def State.HasRead (final : State) (text : List Char) : Prop :=
  final.IsIdle ∧ (final = .text → EndsClean text)

theorem State.HasRead.suffix
    {final : State}
    {front back : List Char}
    (hasRead : final.HasRead front)
    (isBack : back <:+ front) :
    final.HasRead back :=
  ⟨hasRead.1, fun isText ending listed here => hasRead.2 isText ending listed (here.trans isBack)⟩

/-- A word is found in front of a text whatever follows, unless the text is cut
within the word. -/
theorem isPrefixOf_append
    {word text : List Char}
    (whole : text <+: word → word <+: text)
    (more : List Char) :
    word.isPrefixOf (text ++ more) = word.isPrefixOf text := by
  rw [Bool.eq_iff_iff, List.isPrefixOf_iff_prefix, List.isPrefixOf_iff_prefix]
  constructor
  · intro here
    rcases List.prefix_or_prefix_of_prefix here (List.prefix_append text more) with found | cut
    · exact found
    · exact whole cut
  · intro here
    exact here.trans (List.prefix_append text more)

/-- The openers that template text is looked through for. -/
def openers : List String :=
  ["<%--", "<%", "<!--", "</"]

/-- What is left of the openers where they are cut. -/
def cutOpeners : List (List Char) :=
  ["<".toList, "<%".toList, "<%-".toList, "<!".toList, "<!-".toList]

/-- A pass that has read a text has not been cut within an opener. -/
theorem opener_whole
    {final : State}
    {behind rest : List Char}
    {char : Char}
    (hasRead : final.HasRead (char :: rest))
    (ends : run (stepText behind char rest).1 (stepText behind char rest).2 (char :: behind)
      rest = final)
    {word : String}
    (listed : word ∈ openers)
    (cut : char :: rest <+: word.toList) :
    word.toList <+: char :: rest := by
  have known : ∀ word ∈ openers, ∀ part ∈ word.toList.inits,
      part = [] ∨ part = word.toList ∨ part ∈ cutOpeners := by
    decide
  rcases known word listed _ ((List.mem_inits ..).mpr cut) with nothing | whole | isCut
  · cases nothing
  · rw [whole]
  · exfalso
    obtain ⟨isIdle, clean⟩ := hasRead
    rw [← ends] at isIdle clean
    simp only [cutOpeners, List.mem_cons, List.not_mem_nil, or_false] at isCut
    rcases isCut with bracket | scriptlet | scriptlet | declaration | declaration
    -- A bracket alone begins a name, and what begins a scriptlet is skipped.
    · obtain ⟨rfl, rfl⟩ := List.cons.inj bracket
      exact isIdle
    · obtain ⟨rfl, rfl⟩ := List.cons.inj scriptlet
      exact isIdle
    · obtain ⟨rfl, rfl⟩ := List.cons.inj scriptlet
      exact isIdle
    -- What begins a comment is template text as long as the rest is missing.
    · obtain ⟨rfl, rfl⟩ := List.cons.inj declaration
      exact clean rfl "<!" (by decide) List.suffix_rfl
    · obtain ⟨rfl, rfl⟩ := List.cons.inj declaration
      exact clean rfl "<!-" (by decide) List.suffix_rfl

/-- Once the pass has read a text, what it read as template text there was no part
of something longer. -/
theorem stepText_append
    {final : State}
    {behind rest : List Char}
    {char : Char}
    (hasRead : final.HasRead (char :: rest))
    (ends : run (stepText behind char rest).1 (stepText behind char rest).2 (char :: behind)
      rest = final)
    (more : List Char) :
    stepText behind char (rest ++ more) = stepText behind char rest := by
  have aheadEq (word : String) (listed : word ∈ openers) :
      ahead word char (rest ++ more) = ahead word char rest :=
    isPrefixOf_append (opener_whole hasRead ends listed) more
  cases rest with
  | nil =>
      obtain ⟨isIdle, clean⟩ := hasRead
      rw [run_nil] at ends
      have notBracket : char ≠ '<' := by
        rintro rfl
        rw [← ends] at isIdle
        exact isIdle
      have isText : final = .text := by
        rw [← ends, stepText_of_ne notBracket, opensExpression]
        simp
      have notDollar : char ≠ '$' := by
        rintro rfl
        exact clean isText "$" (by decide) List.suffix_rfl
      have notHash : char ≠ '#' := by
        rintro rfl
        exact clean isText "#" (by decide) List.suffix_rfl
      rw [stepText_of_ne notBracket, stepText_of_ne notBracket]
      simp [opensExpression, notDollar, notHash]
  | cons next rest =>
      have openerEq : opensExpression behind char (next :: rest ++ more) =
          opensExpression behind char (next :: rest) := rfl
      unfold stepText
      rw [aheadEq "<%--" (by decide), aheadEq "<%" (by decide), aheadEq "<!--" (by decide),
        aheadEq "</" (by decide), openerEq]
      rfl

/-- A text shorter than the terminator does not end a skipped part. -/
theorem run_ignored_of_short
    {terminator text : List Char}
    (short : text.length < terminator.length)
    (behind : List Char) :
    run (.ignored terminator) 0 behind text = .ignored terminator := by
  apply Skipped.run_of_not_infix
  intro here
  exact Nat.not_le_of_lt short here.length_le

/-- A step that goes on in what follows is a step in template text. -/
theorem step_append_of_stepText
    {state final : State}
    {behind rest more : List Char}
    {char : Char}
    (isIdle : final.IsIdle)
    (alike : run (stepText behind char rest).1 (stepText behind char rest).2 (char :: behind)
        rest = final →
      stepText behind char (rest ++ more) = stepText behind char rest)
    (ends : run (step state behind char rest).1 (step state behind char rest).2 (char :: behind)
      rest = final) :
    step state behind char (rest ++ more) = step state behind char rest := by
  cases state with
  | text => exact alike ends
  | tagName start nameStart closing =>
      simp only [step] at ends ⊢
      split
      · rfl
      split
      · rfl
      split
      · rfl
      · rename_i notName notSpace notEnd
        rw [if_neg notName, if_neg notSpace, if_neg notEnd] at ends
        exact alike ends
  | inTag tag =>
      simp only [step] at ends ⊢
      split
      · rfl
      split
      · rfl
      split
      · rename_i notEnd notQuote isBracket
        rw [if_neg notEnd, if_neg notQuote, if_pos isBracket] at ends
        exact alike ends
      · rfl
  | value head =>
      cases rest with
      | nil =>
          -- Within one character the pass leaves a value by its quote only.
          by_cases isQuote : (char == head.quote) = true
          · simp only [step, if_pos isQuote]
          · rw [← ends, run_nil, step, if_neg isQuote] at isIdle
            split at isIdle <;> exact isIdle.elim
      | cons next rest => rfl
  | expression start depth literal within => rfl
  | ignored terminator =>
      have whole : char :: rest <+: terminator → terminator <+: char :: rest := by
        intro cut
        by_contra notHere
        have short : (char :: rest).length < terminator.length := by
          by_contra fits
          rw [cut.eq_of_length_le (Nat.le_of_not_lt fits)] at notHere
          exact notHere (List.prefix_refl _)
        rw [← ends, ← run_zero_cons, run_ignored_of_short short] at isIdle
        exact isIdle
      have sameFound := isPrefixOf_append whole more
      rw [List.cons_append] at sameFound
      simp only [step, sameFound]

theorem step_append
    {state final : State}
    {behind rest : List Char}
    {char : Char}
    (hasRead : final.HasRead (char :: rest))
    (ends : run (step state behind char rest).1 (step state behind char rest).2 (char :: behind)
      rest = final)
    (more : List Char) :
    step state behind char (rest ++ more) = step state behind char rest :=
  step_append_of_stepText hasRead.1 (fun endsText => stepText_append hasRead endsText more) ends

theorem length_le_of_ahead
    {word : String}
    {char : Char}
    {rest : List Char}
    (found : ahead word char rest = true) :
    word.toList.length ≤ rest.length + 1 :=
  (List.isPrefixOf_iff_prefix.mp found).length_le

theorem one_le_of_opensExpression
    {behind rest : List Char}
    {char : Char}
    (opens : opensExpression behind char rest = true) :
    1 ≤ rest.length := by
  cases rest with
  | nil => simp [opensExpression] at opens
  | cons next rest => simp

/-- An opener is read whole. -/
theorem skip_stepText_le
    (behind : List Char)
    (char : Char)
    (rest : List Char) :
    (stepText behind char rest).2 ≤ rest.length := by
  unfold stepText
  split
  · rename_i found
    exact Nat.le_of_succ_le_succ (length_le_of_ahead found)
  split
  · rename_i found
    exact Nat.le_of_succ_le_succ (length_le_of_ahead found)
  split
  · rename_i found
    exact Nat.le_of_succ_le_succ (length_le_of_ahead found)
  split
  · rename_i found
    exact Nat.le_of_succ_le_succ (length_le_of_ahead found)
  split
  · exact Nat.zero_le _
  split
  · rename_i opens
    exact one_le_of_opensExpression opens
  · exact Nat.zero_le _

/-- Only an escape in a literal may be cut by the end of the text. -/
theorem skip_step_le
    (state : State)
    (behind : List Char)
    (char : Char)
    (rest : List Char) :
    (step state behind char rest).2 ≤ rest.length ∨
      ∃ start depth quote within, state = .expression start depth (some quote) within ∧
        (step state behind char rest).1 = state := by
  have ofText := skip_stepText_le behind char rest
  cases state with
  | text => exact .inl ofText
  | tagName start nameStart closing =>
      left
      simp only [step]
      repeat' split
      all_goals first | exact ofText | exact Nat.zero_le _
  | inTag tag =>
      left
      simp only [step]
      repeat' split
      all_goals first | exact ofText | exact Nat.zero_le _
  | value head =>
      left
      simp only [step]
      split
      · exact Nat.zero_le _
      split
      · rename_i opens
        exact one_le_of_opensExpression opens
      · exact Nat.zero_le _
  | expression start depth literal within =>
      cases literal with
      | some quote =>
          by_cases escapes : char == '\\'
          · exact .inr ⟨start, depth, quote, within, rfl, by simp [step, stepExpression, escapes]⟩
          · left
            simp only [step, stepExpression, if_neg escapes]
            split <;> exact Nat.zero_le _
      | none =>
          left
          simp only [step, stepExpression]
          repeat' split
          all_goals exact Nat.zero_le _
  | ignored terminator =>
      left
      simp only [step]
      split
      · rename_i found
        have fits := (List.isPrefixOf_iff_prefix.mp found).length_le
        rw [List.length_cons] at fits
        omega
      · exact Nat.zero_le _

/-- Where no step sees what follows a text, the text is read on its own, and what
follows is read from the state that the pass ended in. -/
theorem run_append_of_step
    {state final : State}
    {skip : Nat}
    {behind front more : List Char}
    (isIdle : final.IsIdle)
    (alike : ∀ {state behind char rest}, char :: rest <:+ front →
      run (step state behind char rest).1 (step state behind char rest).2 (char :: behind)
        rest = final →
      step state behind char (rest ++ more) = step state behind char rest)
    (fits : state.IsIdle → skip ≤ front.length)
    (ends : run state skip behind front = final) :
    run state skip behind (front ++ more) = run final 0 (front.reverse ++ behind) more := by
  induction front generalizing state skip behind with
  | nil =>
      rw [run_nil] at ends
      have noSkip : skip = 0 := Nat.le_zero.mp (fits (ends ▸ isIdle))
      rw [ends, noSkip]
      rfl
  | cons char rest inductionHypothesis =>
      have alikeRest : ∀ {state behind other tail}, other :: tail <:+ rest →
          run (step state behind other tail).1 (step state behind other tail).2 (other :: behind)
            tail = final →
          step state behind other (tail ++ more) = step state behind other tail :=
        fun isBack => alike (isBack.trans (List.suffix_cons char rest))
      cases skip with
      | zero =>
          rw [run_zero_cons] at ends
          have fitsRest : (step state behind char rest).1.IsIdle →
              (step state behind char rest).2 ≤ rest.length := by
            intro isIdle
            rcases skip_step_le state behind char rest with whole | ⟨_, _, _, _, isLiteral, same⟩
            · exact whole
            · rw [same, isLiteral] at isIdle
              exact isIdle.elim
          rw [List.cons_append, run_zero_cons, alike List.suffix_rfl ends,
            inductionHypothesis alikeRest fitsRest ends]
          simp
      | succ skip =>
          rw [run_succ_cons] at ends
          have fitsRest : state.IsIdle → skip ≤ rest.length := by
            intro isIdle
            have := fits isIdle
            rw [List.length_cons] at this
            omega
          rw [List.cons_append, run_succ_cons, inductionHypothesis alikeRest fitsRest ends]
          simp

/-- A text that the pass has read is read on its own, and what follows is read
from the state that the pass ended in. -/
theorem run_append_of_hasRead
    {state final : State}
    {skip : Nat}
    {behind front : List Char}
    (hasRead : final.HasRead front)
    (fits : state.IsIdle → skip ≤ front.length)
    (ends : run state skip behind front = final)
    (more : List Char) :
    run state skip behind (front ++ more) = run final 0 (front.reverse ++ behind) more :=
  run_append_of_step hasRead.1
    (fun isBack endsBack => step_append (hasRead.suffix isBack) endsBack more) fits ends

/-- A text after which the pass is back in template text is read on its own, and
what follows is read from template text. -/
theorem run_append
    {state : State}
    {skip : Nat}
    {behind front : List Char}
    (clean : EndsClean front)
    (fits : state.IsIdle → skip ≤ front.length)
    (returns : run state skip behind front = .text)
    (more : List Char) :
    run state skip behind (front ++ more) = run .text 0 (front.reverse ++ behind) more := by
  have hasRead : State.text.HasRead front := ⟨trivial, fun _ => clean⟩
  exact run_append_of_hasRead hasRead fits returns more

/-! ## A tag behind a text -/

/-- A bracket completes no opener but those that begin with it. -/
theorem ahead_before_bracket
    {word : String}
    (listed : word ∈ openers)
    (char : Char)
    (rest more : List Char) :
    ahead word char (rest ++ '<' :: more) = ahead word char rest := by
  obtain ⟨letters, wordEq, noBracket⟩ : ∃ letters, word.toList = '<' :: letters ∧
      '<' ∉ letters := by
    have known : ∀ word ∈ openers, word.toList.head? = some '<' ∧ '<' ∉ word.toList.tail := by
      decide
    obtain ⟨opens, noBracket⟩ := known word listed
    exact ⟨word.toList.tail, (List.eq_cons_of_mem_head? opens), noBracket⟩
  have foreign : ∀ other ∈ ('<' :: more).head?, other ∉ letters := by
    rintro other ⟨⟩
    exact noBracket
  rw [Bool.eq_iff_iff, ahead, ahead, List.isPrefixOf_iff_prefix, List.isPrefixOf_iff_prefix,
    wordEq, List.cons_prefix_cons, List.cons_prefix_cons]
  constructor
  · rintro ⟨same, here⟩
    exact ⟨same, Text.prefix_of_prefix_append foreign here⟩
  · rintro ⟨same, here⟩
    exact ⟨same, here.trans (List.prefix_append rest _)⟩

theorem opensExpression_before_bracket
    (behind : List Char)
    (char : Char)
    (rest more : List Char) :
    opensExpression behind char (rest ++ '<' :: more) = opensExpression behind char rest := by
  cases rest with
  | nil => simp [opensExpression]
  | cons next rest => rfl

theorem stepText_before_bracket
    {final : State}
    {behind rest : List Char}
    {char : Char}
    (isIdle : final.IsIdle)
    (ends : run (stepText behind char rest).1 (stepText behind char rest).2 (char :: behind)
      rest = final)
    (more : List Char) :
    stepText behind char (rest ++ '<' :: more) = stepText behind char rest := by
  cases rest with
  | nil =>
      have notBracket : char ≠ '<' := by
        rintro rfl
        rw [← ends] at isIdle
        exact isIdle
      rw [stepText_of_ne notBracket, stepText_of_ne notBracket, opensExpression_before_bracket]
  | cons next rest =>
      unfold stepText
      rw [ahead_before_bracket (by decide), ahead_before_bracket (by decide),
        ahead_before_bracket (by decide), ahead_before_bracket (by decide),
        opensExpression_before_bracket]
      rfl

/-- No step sees the bracket that follows a text. -/
theorem step_before_bracket
    {state final : State}
    {behind rest : List Char}
    {char : Char}
    (isIdle : final.IsIdle)
    (ends : run (step state behind char rest).1 (step state behind char rest).2 (char :: behind)
      rest = final)
    (more : List Char) :
    step state behind char (rest ++ '<' :: more) = step state behind char rest :=
  step_append_of_stepText isIdle (fun endsText => stepText_before_bracket isIdle endsText more)
    ends

theorem stepText_tagWord
    (behind : List Char)
    (word : TagWord) :
    stepText behind '<' word.chars =
      (.tagName (Text.size behind) (Text.size behind + 1) false, 0) := by
  have percent : '%' ≠ word.first := (ne_of_class word.letter rfl).symm
  have mark : '!' ≠ word.first := (ne_of_class word.letter rfl).symm
  have slash : '/' ≠ word.first := (ne_of_class word.letter rfl).symm
  simp [stepText, ahead, TagWord.chars, percent, mark, slash, word.letter]

/-- Behind a text that leaves the cursor in template text, whatever it ends in, a
bracket and a name begin a tag. -/
theorem run_append_tagWord
    {front : List Char}
    (inText : (run .text 0 [] front).context = .text)
    (word : TagWord) :
    run .text 0 [] (front ++ '<' :: word.chars) =
      .tagName (Text.size front) (Text.size front + 1) false := by
  have begins (behind : List Char) :
      run (stepText behind '<' word.chars).1 (stepText behind '<' word.chars).2 ('<' :: behind)
          word.chars = .tagName (Text.size behind) (Text.size behind + 1) false := by
    have passes := (reads_tagWord word (Text.size behind) (Text.size behind + 1) false
      ('<' :: behind)).passes []
    simpa [stepText_tagWord, textOf_within] using passes
  obtain ⟨isIdle, goesOn⟩ : (run .text 0 [] front).IsIdle ∧ ∀ behind,
      step (run .text 0 [] front) behind '<' word.chars = stepText behind '<' word.chars := by
    cases ended : run .text 0 [] front with
    | text => exact ⟨trivial, fun _ => rfl⟩
    | inTag tag => exact ⟨trivial, fun _ => rfl⟩
    | ignored _ | tagName _ _ _ | value _ | expression _ _ _ _ =>
        rw [ended] at inText
        cases inText
  rw [run_append_of_step isIdle (fun _ ends => step_before_bracket isIdle ends _)
    (fun _ => Nat.zero_le _) rfl, run_zero_cons, goesOn, begins]
  simp

end Cursor

/-- Where the pass is in template text behind a text, well-formed or not, that
does not end in a dollar sign, a hash, a backslash or the beginning of a comment,
what follows is classified at every offset as if it stood alone, with the
positions shifted. -/
theorem classify_append_of_text
    (front back : List Char)
    (returns : Cursor.run .text 0 [] front = .text)
    (clean : Cursor.EndsClean front)
    (offset : Nat) :
    classify (front ++ back) (Text.size front + offset) =
      (classify back offset).shift (Text.size front) := by
  have notTagged : Cursor.State.text.IsTagged → '<' ∈ [] := nofun
  have shifted := Cursor.run_shift clean.unescaped notTagged 0 (Text.reaching offset back)
  rw [Text.size_reverse] at shifted
  rw [classify, Grammar.reaching_size_add, Cursor.run_append clean (fun _ => Nat.zero_le _) returns,
    List.append_nil]
  exact (congrArg Cursor.State.context shifted).trans (Cursor.State.context_shift ..)

/-- A tag that was never finished, and another one behind it. -/
def sampleFront : List Char :=
  "<a b=\"1\" <c>\u00e9".toList

/-- Behind it an attribute value is recognised where it starts. -/
theorem sampleFront_classify :
    Cursor.run .text 0 [] sampleFront = .text ∧ Cursor.EndsClean sampleFront ∧
      classify (sampleFront ++ "<d e=\"".toList) (Text.size sampleFront + 6) =
        .attributeValue "d" "e" 20 := by
  have returns : Cursor.run .text 0 [] sampleFront = .text := by decide
  have clean : Cursor.EndsClean sampleFront := by decide
  refine ⟨returns, clean, ?_⟩
  rw [classify_append_of_text sampleFront "<d e=\"".toList returns clean 6]
  decide

end Markup
end JspCompletion
