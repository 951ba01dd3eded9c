import JspCompletion.Proofs.Markup.Classification
import JspCompletion.Proofs.Snippet.Tag

/-!
# The cursor in an inserted tag

A tag is completed behind an opening bracket.  This module shows that the pass
which classifies cursors finds its way through the inserted tag: at the stop of
a required attribute the cursor stands in the value of that attribute, or in
the expression that was inserted for it, and at the last stop it stands in
template text.

What stands in front of the bracket may be anything, well-formed or not.  It is
enough that the pass took the bracket for the start of a tag.
-/

namespace JspCompletion
namespace Markup
namespace Cursor

open Grammar

/-! ## Going on behind a bracket -/

/-- Whether a word without a bracket stands in front can be told from the text
up to the next bracket. -/
theorem isPrefixOf_append_bracket
    (word front more : List Char)
    (noBracket : '<' ∉ word) :
    word.isPrefixOf (front ++ '<' :: more) = word.isPrefixOf (front ++ ['<']) := by
  induction word generalizing front with
  | nil => simp
  | cons first word inductionHypothesis =>
      rw [List.mem_cons, not_or] at noBracket
      obtain ⟨different, absent⟩ := noBracket
      cases front with
      | nil =>
          have unequal : (first == '<') = false := beq_eq_false_iff_ne.mpr (Ne.symm different)
          rw [List.nil_append, List.nil_append, List.isPrefixOf_cons_cons,
            List.isPrefixOf_cons_cons, unequal, Bool.false_and, Bool.false_and]
      | cons char front =>
          rw [List.cons_append, List.cons_append, List.isPrefixOf_cons_cons,
            List.isPrefixOf_cons_cons, inductionHypothesis front absent]

theorem opensExpression_append_bracket
    (behind front more : List Char)
    (char : Char) :
    opensExpression behind char (front ++ '<' :: more) =
      opensExpression behind char (front ++ ['<']) := by
  cases front <;> rfl

theorem stepText_append_bracket
    (behind front more : List Char)
    (char : Char) :
    stepText behind char (front ++ '<' :: more) = stepText behind char (front ++ ['<']) := by
  have aheadEq (word : String) (noBracket : '<' ∉ word.toList.tail) :
      ahead word char (front ++ '<' :: more) = ahead word char (front ++ ['<']) := by
    unfold ahead
    cases split : word.toList with
    | nil => rfl
    | cons first others =>
        rw [split, List.tail_cons] at noBracket
        rw [List.isPrefixOf_cons_cons, List.isPrefixOf_cons_cons,
          isPrefixOf_append_bracket others front more noBracket]
  have headEq : (front ++ '<' :: more).head? = (front ++ ['<']).head? := by
    cases front <;> rfl
  unfold stepText
  rw [aheadEq "<%--" (by decide), aheadEq "<%" (by decide), aheadEq "<!--" (by decide),
    aheadEq "</" (by decide), headEq, opensExpression_append_bracket behind front more char]

/-- What the pass keeps: the part that it skips ends without a bracket, and it
never has characters left over in the name of a start tag. -/
structure Settled (state : State) (skip : Nat) : Prop where
  noBracket : ∀ terminator, state = .ignored terminator → '<' ∉ terminator
  notInName : skip ≠ 0 → ∀ start nameStart, state ≠ .tagName start nameStart false

/-- Whatever goes on with the character itself is settled. -/
theorem settled_zero
    {state : State}
    (notSkipping : ∀ terminator, state ≠ .ignored terminator) :
    Settled state 0 :=
  { noBracket := fun terminator equal => absurd equal (notSkipping terminator)
    notInName := fun nonzero => absurd rfl nonzero }

/-- So is every state but comments and names. -/
theorem settled_of_ne
    {state : State}
    (skip : Nat)
    (notSkipping : ∀ terminator, state ≠ .ignored terminator)
    (notInName : ∀ start nameStart, state ≠ .tagName start nameStart false) :
    Settled state skip :=
  { noBracket := fun terminator equal => absurd equal (notSkipping terminator)
    notInName := fun _ => notInName }

theorem settled_stepText
    (behind rest : List Char)
    (char : Char) :
    Settled (stepText behind char rest).1 (stepText behind char rest).2 := by
  have skipping (terminator : List Char) (skip : Nat) (absent : '<' ∉ terminator) :
      Settled (.ignored terminator) skip := by
    refine ⟨?_, by simp⟩
    rintro _ ⟨⟩
    exact absent
  unfold stepText
  repeat' split
  · exact skipping _ _ (by decide)
  · exact skipping _ _ (by decide)
  · exact skipping _ _ (by decide)
  · exact settled_of_ne _ (by simp) (by simp)
  · exact settled_zero (by simp)
  · exact settled_of_ne _ (by simp) (by simp)
  · exact settled_zero (by simp)

theorem settled_stepExpression
    (start depth : Nat)
    (literal : Option Char)
    (within : Option ValueHead)
    (char : Char) :
    Settled (stepExpression start depth literal within char).1
      (stepExpression start depth literal within char).2 := by
  unfold stepExpression
  repeat' split
  all_goals exact settled_of_ne _ (by simp) (by simp)

theorem Settled.step
    {state : State}
    (settled : Settled state 0)
    (behind rest : List Char)
    (char : Char) :
    Settled (Cursor.step state behind char rest).1 (Cursor.step state behind char rest).2 := by
  have textSettled := settled_stepText behind rest char
  cases state with
  | text => exact textSettled
  | tagName start nameStart closing =>
      simp only [Cursor.step]
      repeat' split
      · exact settled_zero (by simp)
      · exact settled_zero (by simp)
      · exact settled_zero (by simp)
      · exact textSettled
  | inTag tag =>
      simp only [Cursor.step]
      repeat' split
      · exact settled_zero (by simp)
      · exact settled_zero (by simp)
      · exact textSettled
      · exact settled_zero (by simp)
  | value head =>
      simp only [Cursor.step]
      repeat' split
      all_goals exact settled_of_ne _ (by simp) (by simp)
  | expression start depth literal within =>
      exact settled_stepExpression start depth literal within char
  | ignored terminator =>
      simp only [Cursor.step]
      split
      · exact settled_of_ne _ (by simp) (by simp)
      · exact settled

theorem step_append_bracket
    {state : State}
    (settled : Settled state 0)
    (behind front more : List Char)
    (char : Char) :
    step state behind char (front ++ '<' :: more) = step state behind char (front ++ ['<']) := by
  have textEq := stepText_append_bracket behind front more char
  cases state with
  | text => exact textEq
  | tagName start nameStart closing => simp only [step, textEq]
  | inTag tag => simp only [step, textEq]
  | value head => simp only [step, opensExpression_append_bracket behind front more char]
  | expression start depth literal within => rfl
  | ignored terminator =>
      have prefixEq := isPrefixOf_append_bracket terminator (char :: front) more
        (settled.noBracket terminator rfl)
      rw [List.cons_append, List.cons_append] at prefixEq
      simp only [step, prefixEq]

theorem eq_tagName_of_context
    {state : State}
    {nameStart : Nat}
    {closing : Bool}
    (context : state.context = .tagName nameStart closing) :
    ∃ start, state = .tagName start nameStart closing := by
  cases state with
  | tagName start _ _ =>
      cases context
      exact ⟨start, rfl⟩
  | inTag tag =>
      simp only [State.context] at context
      split at context <;> cases context
  | text => cases context
  | value head => cases context
  | expression start depth literal within => cases context
  | ignored terminator => cases context

/-- A bracket that the pass takes for the start of a tag is taken for one
whatever letter follows. -/
theorem step_bracket
    {state : State}
    {behind more : List Char}
    {nameStart : Nat}
    (taken : (step state behind '<' []).1.context = .tagName nameStart false)
    (letter : more.head?.all Char.isAlpha = true) :
    step state behind '<' more =
      (.tagName (Text.size behind) (Text.size behind + 1) false, 0) := by
  have textEq : stepText behind '<' more =
      (.tagName (Text.size behind) (Text.size behind + 1) false, 0) := by
    cases more with
    | nil => rfl
    | cons first rest =>
        have isLetter : first.isAlpha = true := letter
        have notPercent : '%' ≠ first := (ne_of_class isLetter (by decide)).symm
        have notMark : '!' ≠ first := (ne_of_class isLetter (by decide)).symm
        have notSlash : '/' ≠ first := (ne_of_class isLetter (by decide)).symm
        simp [stepText, ahead, isLetter, notPercent, notMark, notSlash]
  obtain ⟨start, inName⟩ := eq_tagName_of_context taken
  cases state with
  | text => exact textEq
  | tagName start nameStart closing => exact textEq
  | inTag tag => exact textEq
  -- Nothing else reads the bracket as template text.
  | value head =>
      simp only [step] at inName
      split at inName
      · cases inName
      split at inName <;> cases inName
  | expression start depth literal within =>
      simp only [step, stepExpression] at inName
      repeat' split at inName
      all_goals cases inName
  | ignored terminator =>
      simp only [step] at inName
      split at inName <;> cases inName

/-- Where the last bracket of a text starts a tag, it starts the same tag when
the text goes on with a letter. -/
theorem run_append_bracket
    {state : State}
    {skip nameStart : Nat}
    {behind front more : List Char}
    (settled : Settled state skip)
    (taken : (run state skip behind (front ++ ['<'])).context = .tagName nameStart false)
    (letter : more.head?.all Char.isAlpha = true) :
    run state skip behind (front ++ '<' :: more) =
      run (.tagName (Text.size (front.reverse ++ behind))
          (Text.size (front.reverse ++ behind) + 1) false) 0
        ('<' :: (front.reverse ++ behind)) more := by
  induction front generalizing state skip behind with
  | nil =>
      cases skip with
      | zero =>
          rw [List.nil_append, run_zero_cons, run_nil] at taken
          rw [List.nil_append, run_zero_cons, step_bracket taken letter]
          rfl
      | succ skip =>
          rw [List.nil_append, run_succ_cons, run_nil] at taken
          obtain ⟨start, inName⟩ := eq_tagName_of_context taken
          exact absurd inName (settled.notInName (Nat.succ_ne_zero skip) start nameStart)
  | cons char front inductionHypothesis =>
      cases skip with
      | zero =>
          rw [List.cons_append, run_zero_cons] at taken ⊢
          rw [step_append_bracket settled behind front more char]
          rw [inductionHypothesis (settled.step behind _ char) taken]
          simp
      | succ skip =>
          rw [List.cons_append, run_succ_cons] at taken ⊢
          have later : Settled state skip :=
            { noBracket := settled.noBracket
              notInName := fun _ => settled.notInName (Nat.succ_ne_zero skip) }
          rw [inductionHypothesis later taken]
          simp

end Cursor

theorem classify_append
    (text seen rest : List Char) :
    classify (text ++ (seen ++ rest)) (Text.size text + Text.size seen) =
      (Cursor.run .text 0 [] (text ++ seen)).context := by
  have nothing : Text.reaching 0 rest = [] := by
    cases rest <;> rfl
  have reached := Grammar.reaching_size_add (text ++ seen) rest 0
  rw [nothing, List.append_nil, Nat.add_zero, Text.size_append, List.append_assoc] at reached
  rw [classify, reached]

end Markup

open Snippet Markup Markup.Cursor Markup.Grammar

/-! ## Attributes -/

namespace Markup
namespace Grammar

theorem isMarkupSpace_space : Text.isMarkupSpace ' ' = true := by
  decide

theorem isMarkupSpace_of_mem_nil : ∀ char ∈ ([] : List Char), Text.isMarkupSpace char = true := by
  simp

/-- An attribute with a value in double quotes, behind one space. -/
def quoted (name : Word) (parts : List (ValuePart .double)) : Space × TagAttribute :=
  ({ first := ' '
     blank := isMarkupSpace_space
     others := { chars := [], blank := isMarkupSpace_of_mem_nil } },
    .valued name { chars := [], blank := isMarkupSpace_of_mem_nil }
      { chars := [], blank := isMarkupSpace_of_mem_nil } .double parts)

/-- What stands in front of the opening quote. -/
def leadOf (name : Word) : List Char :=
  ' ' :: (name.chars ++ ['='])

theorem attributeChars_quoted
    (name : Word)
    (parts : List (ValuePart .double)) :
    StartTag.attributeChars [quoted name parts] =
      leadOf name ++ '"' :: (parts.flatMap (·.chars) ++ ['"']) := by
  simp [StartTag.attributeChars, TagAttribute.chars, quoted, leadOf, Space.chars, Quote.char]

theorem attributeCells_quoted
    (name : Word)
    (parts : List (ValuePart .double))
    (tagName : String)
    (between : CursorContext)
    (start : Nat) :
    let valueStart := start + Text.size (leadOf name) + 1
    let value : CursorContext :=
      .attributeValue tagName (String.ofList name.chars) valueStart
    StartTag.attributeCells tagName between start [quoted name parts] =
      within between (leadOf name) ++ { char := '"', context := value } ::
        (valueCells value valueStart parts ++ [{ char := '"', context := between }]) := by
  intro valueStart value
  have startEq : start + Text.size [' '] + Text.size (name.chars ++ ['=']) + 1 = valueStart := by
    simp only [valueStart, leadOf, Text.size_cons, Text.size_nil]
    omega
  simp only [StartTag.attributeCells, TagAttribute.cells, quoted, Space.chars, List.append_nil,
    startEq, Quote.char]
  rfl

/-- In a value that is an expression, a cell stands for the opening brace. -/
theorem exists_split_brace
    (body : Body)
    (context : CursorContext)
    (start : Nat)
    (lead tail : List Cell)
    (opening : Cell) :
    ∃ back,
      lead ++ opening :: (valueCells context start
          [(.expression ⟨.dollar, body⟩ : ValuePart .double)] ++ tail) =
        (lead ++ [opening, { char := '$', context }]) ++
          { char := '\x7b', context := .expression (start + 2) false } :: back := by
  refine ⟨Expression.inner context (start + 2) ⟨.dollar, body⟩ ++ tail, ?_⟩
  simp [valueCells, ValuePart.cells, Expression.cells, Mark.char]

theorem exists_body
    (chars : List Char)
    (plain : ∀ char ∈ chars, char ∉ ['\'', '"', '\x7b', '\x7d']) :
    ∃ body : Body, body.chars = chars := by
  induction chars with
  | nil => exact ⟨.done, rfl⟩
  | cons char rest inductionHypothesis =>
      obtain ⟨body, rfl⟩ := inductionHypothesis fun other member =>
        plain other (List.mem_cons_of_mem _ member)
      have ordinary := plain char List.mem_cons_self
      simp only [List.mem_cons, List.not_mem_nil, or_false, not_or] at ordinary
      exact ⟨.plain char ordinary body, rfl⟩

end Grammar
end Markup

namespace TagAttribute

/-- The name and the type can stand in a tag. -/
structure Writable (attr : TagAttribute) : Prop where
  named : ∀ char ∈ attr.name.text.toList, isNameChar char = true
  plainType : ∀ char ∈ attr.shortType.toList, char ∉ ['\'', '"', '\x7b', '\x7d']

/-- What a cursor at the tab stop stands in: the value of the attribute, or the
expression in the value. -/
def stopContext (attr : TagAttribute) (tagName : String) (position : Nat) : CursorContext :=
  if attr.asExpression then
    .expression position false
  else
    .attributeValue tagName attr.name.text position

/-- What is inserted as the value, as the parts of a value. -/
theorem exists_parts
    (attr : TagAttribute)
    (writable : attr.Writable) :
    ∃ parts : List (ValuePart .double),
      parts.flatMap (·.chars) ++ ['"'] =
          (if attr.asExpression then ['$', '\x7b'] else []) ++ attr.insertedBack ∧
        (attr.asExpression = true → ∃ body, parts = [.expression ⟨.dollar, body⟩]) := by
  by_cases inExpression : attr.asExpression = true
  · obtain ⟨body, bodyEq⟩ := exists_body _ writable.plainType
    refine ⟨[.expression ⟨.dollar, body⟩], ?_, fun _ => ⟨body, rfl⟩⟩
    simp [insertedBack, inExpression, ValuePart.chars, Expression.chars, bodyEq, Mark.char]
  · by_cases dynamic : attr.dynamic = true
    · obtain ⟨body, bodyEq⟩ := exists_body "String".toList (by simp)
      refine ⟨[.expression ⟨.dollar, body⟩], ?_, fun isTrue => absurd isTrue inExpression⟩
      simp [insertedBack, inExpression, dynamic, ValuePart.chars, Expression.chars, bodyEq,
        Mark.char]
    · refine ⟨[], ?_, fun isTrue => absurd isTrue inExpression⟩
      simp [insertedBack, inExpression, dynamic]

/-- The pass reads what is inserted for an attribute, and stands in the value or
the expression at its tab stop. -/
theorem exists_reads
    (attr : TagAttribute)
    (writable : attr.Writable)
    {head : TagHead}
    {state : State}
    {behind : List Char}
    (inside : Inside head state behind) :
    ∃ cells after, Reads behind state cells after ∧ textOf cells = attr.inserted ∧
      Inside head after (attr.inserted.reverse ++ behind) ∧
      ∃ front cell back, cells = front ++ cell :: back ∧
        textOf front ++ [cell.char] = ' ' :: attr.insertedFront ∧
        cell.context = attr.stopContext (String.ofList head.name)
          (Text.size behind + Text.size (' ' :: attr.insertedFront)) := by
  obtain ⟨parts, partsEq, isExpression⟩ := attr.exists_parts writable
  obtain ⟨name, nameEq⟩ : ∃ name : Word, name.chars = attr.name.text.toList := by
    have nonempty : attr.name.text.toList ≠ [] := by
      simpa using attr.name.nonempty
    exact ⟨⟨attr.name.text.toList, nonempty, writable.named⟩, rfl⟩
  have textEq : StartTag.attributeChars [quoted name parts] = attr.inserted := by
    rw [attributeChars_quoted, partsEq]
    simp [inserted, insertedFront, leadOf, nameEq]
  obtain ⟨after, reads, insideAfter⟩ := reads_attributes [quoted name parts] head state behind inside
  rw [textEq] at insideAfter
  refine ⟨_, after, reads, by rw [textOf_attributeCells, textEq], insideAfter, ?_⟩
  rw [attributeCells_quoted]
  by_cases inExpression : attr.asExpression = true
  -- The stop lies behind the brace that opens the expression.
  · obtain ⟨body, rfl⟩ := isExpression inExpression
    have frontEq : ' ' :: attr.insertedFront = leadOf name ++ ['"', '$', '\x7b'] := by
      simp [leadOf, insertedFront, inExpression, nameEq]
    have sizeEq : Text.size behind + Text.size (leadOf name ++ ['"', '$', '\x7b']) =
        Text.size behind + Text.size (leadOf name) + 1 + 2 := by
      rw [Text.size_append]
      exact (Nat.add_assoc _ _ 3).symm
    obtain ⟨back, split⟩ := exists_split_brace body _ _ _ _ _
    rw [frontEq, sizeEq, stopContext, if_pos inExpression]
    refine ⟨_, _, back, split, ?_, rfl⟩
    simp
  -- The stop lies behind the quote.
  · have frontEq : ' ' :: attr.insertedFront = leadOf name ++ ['"'] := by
      simp [leadOf, insertedFront, inExpression, nameEq]
    have sizeEq : Text.size behind + Text.size (leadOf name ++ ['"']) =
        Text.size behind + Text.size (leadOf name) + 1 := by
      rw [Text.size_append]
      exact (Nat.add_assoc _ _ 1).symm
    rw [frontEq, sizeEq, stopContext, if_neg inExpression]
    refine ⟨within _ (leadOf name), ⟨'"', _⟩, _, rfl, ?_, ?_⟩
    · simp
    · simp [nameEq]

/-- The pass goes through what is inserted for attributes. -/
theorem exists_run_inserted
    (attributes : List TagAttribute)
    (writable : ∀ attr ∈ attributes, attr.Writable)
    {head : TagHead}
    {state : State}
    {behind : List Char}
    (inside : Inside head state behind) :
    ∃ after, Inside head after ((attributes.flatMap (·.inserted)).reverse ++ behind) ∧
      ∀ tail, run state 0 behind (attributes.flatMap (·.inserted) ++ tail) =
        run after 0 ((attributes.flatMap (·.inserted)).reverse ++ behind) tail := by
  induction attributes generalizing state behind with
  | nil => exact ⟨state, inside, fun _ => rfl⟩
  | cons attr rest inductionHypothesis =>
      obtain ⟨cells, between, reads, textEq, insideBetween, -⟩ :=
        attr.exists_reads (writable attr List.mem_cons_self) inside
      obtain ⟨after, insideAfter, goesOn⟩ := inductionHypothesis
        (fun other member => writable other (List.mem_cons_of_mem _ member)) insideBetween
      refine ⟨after, by simpa using insideAfter, ?_⟩
      intro tail
      have passes := reads.passes (rest.flatMap (·.inserted) ++ tail)
      rw [textEq, goesOn] at passes
      simpa using passes

end TagAttribute

namespace LibraryTag

/-- The names and types of a tag can stand in a tag behind a namespace. -/
structure Writable (tag : LibraryTag) (space : String) : Prop where
  letter : space.toList.head?.any Char.isAlpha = true
  spaceNamed : ∀ char ∈ space.toList, isNameChar char = true
  named : ∀ char ∈ tag.name.text.toList, isNameChar char = true
  attributes : ∀ attr ∈ tag.requiredAttributes, attr.Writable

theorem isSpecial_of_isNameChar
    {char : Char}
    (named : isNameChar char = true) :
    isSpecial char = false := by
  simp only [isSpecial, Bool.or_eq_false_iff, beq_eq_false_iff_ne]
  refine ⟨⟨?_, ?_⟩, ?_⟩ <;> exact ne_of_class named (by decide)

namespace Writable

variable {tag : LibraryTag} {space : String}

theorem exists_tagWord
    (writable : tag.Writable space) :
    ∃ word : TagWord, word.chars = (qualified (some space) tag.name).toList := by
  have letter := writable.letter
  have spaceNamed := writable.spaceNamed
  have nameEq : (qualified (some space) tag.name).toList =
      space.toList ++ ':' :: tag.name.text.toList := by
    simp [qualified, qualifier]
  cases split : space.toList with
  | nil =>
      rw [split] at letter
      cases letter
  | cons first others =>
      rw [split] at letter spaceNamed
      refine ⟨⟨first, letter, others ++ ':' :: tag.name.text.toList, ?_⟩, ?_⟩
      · intro char member
        rcases List.mem_append.mp member with inSpace | later
        · exact spaceNamed char (List.mem_cons_of_mem _ inSpace)
        rcases List.mem_cons.mp later with rfl | inName
        · decide
        · exact writable.named char inName
      · rw [nameEq, split]
        rfl

theorem expand?_snippet
    (writable : tag.Writable space) :
    expand? (tag.snippet (some space)) = some (tag.expansion (some space)) := by
  obtain ⟨word, wordEq⟩ := writable.exists_tagWord
  apply LibraryTag.expand?_snippet
  · rw [← wordEq]
    apply unmarked_of_plain
    intro char member
    exact isSpecial_of_isNameChar (word.isNameChar_of_mem char member)
  · intro attr member
    apply unmarked_of_plain
    intro char inName
    exact isSpecial_of_isNameChar ((writable.attributes attr member).named char inName)

/-- Behind attributes the pass stands in the tag. -/
theorem exists_run
    (writable : tag.Writable space)
    {text : List Char}
    (bracket : text.getLast? = some '<')
    (opens : classify text (Text.size text) = .tagName (Text.size text) false)
    (front : List TagAttribute)
    (writableFront : ∀ attr ∈ front, attr.Writable) :
    ∃ head after,
      String.ofList head.name = qualified (some space) tag.name ∧
      Inside head after (text ++ tag.insertedFront (some space) front).reverse ∧
      ∀ tail, run .text 0 [] (text ++ (tag.insertedFront (some space) front ++ tail)) =
        run after 0 (text ++ tag.insertedFront (some space) front).reverse tail := by
  obtain ⟨word, wordEq⟩ := writable.exists_tagWord
  obtain ⟨before, rfl⟩ := List.getLast?_eq_some_iff.mp bracket
  have taken : (run .text 0 [] (before ++ ['<'])).context =
      .tagName (Text.size (before ++ ['<'])) false := by
    have whole := classify_append (before ++ ['<']) [] []
    rw [List.append_nil, List.append_nil, Text.size_nil, Nat.add_zero, opens] at whole
    exact whole.symm
  let head : TagHead := { start := Text.size before, name := word.chars, closing := false }
  have insideName : Inside head _ _ :=
    word.inside (Text.size before) (Text.size before + 1) before.reverse
  obtain ⟨after, insideAfter, goesOn⟩ :=
    TagAttribute.exists_run_inserted front writableFront insideName
  have reversed : (before ++ ['<'] ++ tag.insertedFront (some space) front).reverse =
      (front.flatMap (·.inserted)).reverse ++ (word.chars.reverse ++ '<' :: before.reverse) := by
    simp [insertedFront, wordEq]
  refine ⟨head, after, ?_, ?_, ?_⟩
  · rw [← String.ofList_toList (s := qualified (some space) tag.name), ← wordEq]
  · rw [reversed]
    exact insideAfter
  · intro tail
    have textEq : before ++ ['<'] ++ (tag.insertedFront (some space) front ++ tail) =
        before ++ '<' :: (word.chars ++ (front.flatMap (·.inserted) ++ tail)) := by
      simp [insertedFront, wordEq]
    have named := (reads_tagWord word (Text.size before) (Text.size before + 1) false
      ('<' :: before.reverse)).passes (front.flatMap (·.inserted) ++ tail)
    rw [textOf_within, goesOn] at named
    have letter : (word.chars ++ (front.flatMap (·.inserted) ++ tail)).head?.all
        Char.isAlpha = true := word.letter
    have settled : Settled .text 0 := settled_zero (by simp)
    rw [textEq, reversed, run_append_bracket settled taken letter]
    simpa using named

/-- At the stop of an attribute the cursor stands in its value or expression. -/
theorem context_attributeStop
    (writable : tag.Writable space)
    {text : List Char}
    (bracket : text.getLast? = some '<')
    (opens : classify text (Text.size text) = .tagName (Text.size text) false)
    {front back : List TagAttribute}
    {attr : TagAttribute}
    (split : tag.requiredAttributes = front ++ attr :: back) :
    (run .text 0 [] (text ++
        (tag.insertedFront (some space) front ++ ' ' :: attr.insertedFront))).context =
      attr.stopContext (qualified (some space) tag.name)
        (Text.size text + Text.size (tag.insertedFront (some space) front ++
          ' ' :: attr.insertedFront)) := by
  have members : ∀ other ∈ front ++ attr :: back, other.Writable := by
    rw [← split]
    exact writable.attributes
  obtain ⟨head, state, nameEq, inside, goesOn⟩ := writable.exists_run bracket opens front
    fun other member => members other (List.mem_append_left _ member)
  obtain ⟨cells, after, reads, -, -, read, cell, rest, cellsEq, readEq, contextEq⟩ :=
    attr.exists_reads (members attr (by simp)) inside
  have agrees := reads.agrees read cell rest cellsEq
  rw [readEq, contextEq, nameEq] at agrees
  rw [goesOn, agrees]
  congr 1
  simp only [Text.size_append, Text.size_reverse]
  omega

/-- At the last stop the cursor stands in template text. -/
theorem context_lastStop
    (writable : tag.Writable space)
    {text : List Char}
    (bracket : text.getLast? = some '<')
    (opens : classify text (Text.size text) = .tagName (Text.size text) false) :
    (run .text 0 [] (text ++
        (tag.insertedFront (some space) tag.requiredAttributes ++ tag.insertedEnd))).context =
      .text := by
  obtain ⟨head, state, -, inside, goesOn⟩ :=
    writable.exists_run bracket opens tag.requiredAttributes writable.attributes
  rw [goesOn, insertedEnd]
  split
  · have slash : step state _ '/' ['>'] = (.inTag head, 0) := inside.step_filler rfl ['>']
    rw [run_zero_cons, slash, run_zero_cons, Inside.step_end (Or.inl rfl)]
    rfl
  · rw [run_zero_cons, inside.step_end]
    rfl

end Writable

/-- The snippet of a tag, accepted behind a bracket that starts a tag, leads the
cursor where it is completed further: the stop of each required attribute lies
in the value of the attribute, or in the expression that was inserted there,
and the last stop lies in template text. -/
theorem snippet_stops_classified
    (tag : LibraryTag)
    (space : String)
    (writable : tag.Writable space)
    (text : List Char)
    (bracket : text.getLast? = some '<')
    (opens : classify text (Text.size text) = .tagName (Text.size text) false) :
    ∃ expansion, expand? (tag.snippet (some space)) = some expansion ∧
      (∀ index attr, tag.requiredAttributes[index]? = some attr →
        ∃ offset, expansion.StopsAt (index + 1) offset ∧
          classify (text ++ expansion.text) (Text.size text + offset) =
            attr.stopContext (qualified (some space) tag.name) (Text.size text + offset)) ∧
      ∃ offset, expansion.StopsAt 0 offset ∧
        classify (text ++ expansion.text) (Text.size text + offset) = .text := by
  refine ⟨_, writable.expand?_snippet, ?_, ?_⟩
  · intro index attr found
    obtain ⟨front, back, split, rfl⟩ : ∃ front back,
        tag.requiredAttributes = front ++ attr :: back ∧ front.length = index := by
      obtain ⟨inside, rfl⟩ := List.getElem?_eq_some_iff.mp found
      refine ⟨tag.requiredAttributes.take index, tag.requiredAttributes.drop (index + 1), ?_,
        List.length_take_of_le (Nat.le_of_lt inside)⟩
      rw [List.getElem_cons_drop, List.take_append_drop]
    refine ⟨_, tag.stopsAt_attribute (some space) split, ?_⟩
    obtain ⟨rest, textEq⟩ : ∃ rest, (tag.expansion (some space)).text =
        tag.insertedFront (some space) front ++ ' ' :: attr.insertedFront ++ rest := by
      refine ⟨attr.insertedBack ++ back.flatMap (·.inserted) ++ tag.insertedEnd ++
        tag.insertedTail (some space), ?_⟩
      simp [text_expansion, insertedFront, split, TagAttribute.inserted]
    rw [textEq, classify_append]
    exact writable.context_attributeStop bracket opens split
  · refine ⟨_, tag.stopsAt_last (some space), ?_⟩
    rw [text_expansion, classify_append]
    exact writable.context_lastStop bracket opens

/-- A tag with a static, a typed and an optional attribute. -/
def sampleTag : LibraryTag :=
  { name := ⟨"set", by decide⟩
    uri := "core"
    className := ""
    description := ""
    content := "JSP"
    attributes :=
      [sampleAttribute ⟨"var", by decide⟩ "" true false,
        sampleAttribute ⟨"test", by decide⟩ "boolean" true true,
        sampleAttribute ⟨"value", by decide⟩ "" false true] }
where
  sampleAttribute (name : Name) (typeName : String) (required dynamic : Bool) : TagAttribute :=
    { name, tagName := "set", description := "", typeName, required, dynamic }

/-- Behind `é<` the tag is inserted as `c:set var="" test="${boolean}">` with its
end tag. -/
theorem sampleTag_stops_classified :
    sampleTag.Writable "c" ∧
      (['é', '<'].getLast? = some '<') ∧
      classify ['é', '<'] 3 = .tagName 3 false ∧
      ∃ expansion, expand? (sampleTag.snippet (some "c")) = some expansion ∧
        (∀ index attr, sampleTag.requiredAttributes[index]? = some attr →
          ∃ offset, expansion.StopsAt (index + 1) offset ∧
            classify (['é', '<'] ++ expansion.text) (3 + offset) =
              attr.stopContext "c:set" (3 + offset)) ∧
        ∃ offset, expansion.StopsAt 0 offset ∧
          classify (['é', '<'] ++ expansion.text) (3 + offset) = .text := by
  have named : sampleTag.requiredAttributes.all (·.name.text.toList.all isNameChar) = true := by
    decide
  have plainType : sampleTag.requiredAttributes.all (·.shortType.toList.all fun char =>
      !(['\'', '"', '\x7b', '\x7d'].contains char)) = true := by
    decide
  have attributes : ∀ attr ∈ sampleTag.requiredAttributes, attr.Writable := by
    intro attr member
    refine ⟨List.all_eq_true.mp (List.all_eq_true.mp named attr member), ?_⟩
    intro char inType
    simpa using List.all_eq_true.mp (List.all_eq_true.mp plainType attr member) char inType
  have writable : sampleTag.Writable "c" :=
    { letter := by decide
      spaceNamed := List.all_eq_true.mp (by decide)
      named := List.all_eq_true.mp (by decide)
      attributes }
  exact ⟨writable, rfl, by decide,
    snippet_stops_classified sampleTag "c" writable ['é', '<'] rfl (by decide)⟩

end LibraryTag
end JspCompletion
