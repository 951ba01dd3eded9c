import JspCompletion.Proofs.Markup.Reading

/-!
# Classifying the cursor in a well-formed page

The pass that classifies cursors starts each construct of a page in template
text and ends it there, so what it finds inside a construct does not depend on
the constructs around it.  The main result says that at every byte offset from
the end of a construct's opener through the construct's end, also in the middle
of a character, the pass gives the context of the grammar.

Nothing is claimed for offsets inside an opener of several characters, where
the pass has not yet seen what opens.
-/

namespace JspCompletion
namespace Markup
namespace Grammar

open Cursor

/-! ## Cutting texts and cells -/

/-- What starts before an offset in a text does not depend on what follows. -/
theorem reaching_append_of_le
    (left right : List Char)
    {offset : Nat}
    (inside : offset ≤ Text.size left) :
    Text.reaching offset (left ++ right) = Text.reaching offset left := by
  induction left generalizing offset with
  | nil =>
      have zero : offset = 0 := Nat.le_zero.mp inside
      subst zero
      cases right <;> rfl
  | cons char rest inductionHypothesis =>
      cases offset with
      | zero => rfl
      | succ offset =>
          rw [List.cons_append, Text.reaching, Text.reaching]
          congr 1
          apply inductionHypothesis
          rw [Text.size_cons] at inside
          omega

/-- An offset behind a text reaches all of it. -/
theorem reaching_size_add
    (left right : List Char)
    (offset : Nat) :
    Text.reaching (Text.size left + offset) (left ++ right) =
      left ++ Text.reaching offset right := by
  induction left with
  | nil => simp
  | cons char rest inductionHypothesis =>
      have positive := char.utf8Size_pos
      obtain ⟨total, totalEq⟩ : ∃ total,
          Text.size (char :: rest) + offset = total + 1 := by
        refine ⟨Text.size (char :: rest) + offset - 1, ?_⟩
        rw [Text.size_cons]
        omega
      have remaining : total + 1 - char.utf8Size = Text.size rest + offset := by
        rw [← totalEq, Text.size_cons]
        omega
      rw [totalEq, List.cons_append, Text.reaching, remaining, inductionHypothesis]
      rfl

/-- What starts before an offset is a front part of the text. -/
theorem reaching_prefix
    (offset : Nat)
    (text : List Char) :
    Text.reaching offset text <+: text := by
  induction text generalizing offset with
  | nil =>
      rw [Text.reaching]
  | cons char rest inductionHypothesis =>
      cases offset with
      | zero => exact List.nil_prefix
      | succ offset =>
          rw [Text.reaching]
          exact (List.prefix_cons_inj char).mpr (inductionHypothesis _)

/-- The context at an offset is that of the last cell that starts before it. -/
theorem contextAt_eq
    (current : CursorContext)
    (cells : List Cell)
    (offset : Nat) :
    (Text.reaching offset (textOf cells) = [] ∧ contextAt current cells offset = current) ∨
      ∃ front cell back, cells = front ++ cell :: back ∧
        Text.reaching offset (textOf cells) = textOf front ++ [cell.char] ∧
        contextAt current cells offset = cell.context := by
  induction cells generalizing current offset with
  | nil => exact Or.inl ⟨by rw [textOf_nil, Text.reaching], rfl⟩
  | cons cell rest inductionHypothesis =>
      cases offset with
      | zero => exact Or.inl ⟨rfl, rfl⟩
      | succ offset =>
          right
          rw [textOf_cons, Text.reaching, contextAt]
          rcases inductionHypothesis cell.context (offset + 1 - cell.char.utf8Size) with
            ⟨reached, context⟩ | ⟨front, last, back, split, reached, context⟩
          · exact ⟨[], cell, rest, rfl, by rw [reached]; rfl, context⟩
          · exact ⟨cell :: front, last, back, by rw [split]; rfl, by rw [reached]; rfl, context⟩

/-- A pass that stops at an offset of cells gives the context at the offset. -/
theorem Reads.context_reaching
    {behind : List Char}
    {before after : State}
    {cells : List Cell}
    (reads : Reads behind before cells after)
    (offset : Nat) :
    (run before 0 behind (Text.reaching offset (textOf cells))).context =
      contextAt before.context cells offset := by
  rcases contextAt_eq before.context cells offset with
    ⟨reached, context⟩ | ⟨front, cell, back, split, reached, context⟩
  · rw [reached, context, run_nil]
  · rw [reached, context]
    exact reads.agrees front cell back split

/-! ## Constructs -/

/-- Without an opening bracket, template text can only open an expression. -/
theorem stepText_of_ne
    {char : Char}
    (notBracket : char ≠ '<')
    (behind rest : List Char) :
    stepText behind char rest =
      if opensExpression behind char rest then
        (.expression (Text.size behind + 2) 0 none none, 1)
      else
        (.text, 0) := by
  simp [stepText, ahead, notBracket, notBracket.symm]

namespace Construct

/-- The state of the pass behind the opener of a construct that begins at an
offset. -/
def openState (start : Nat) : Construct → State
  | text _ _ => .text
  | skipped form _ _ _ => .ignored form.terminator
  | endTag _ => .tagName start (start + 2) true
  | startTag _ => .tagName start (start + 1) false
  | expression _ => .expression (start + 2) 0 none none

theorem context_openState
    (construct : Construct)
    (start : Nat) :
    (construct.openState start).context = construct.opened start := by
  cases construct <;> rfl

/-- The text of a construct is its opener and the text behind it. -/
theorem chars_eq
    (construct : Construct)
    (start : Nat) :
    construct.chars = construct.opener ++ textOf (construct.inner start) := by
  cases construct with
  | text written plain => simp [chars, opener, inner]
  | skipped form body free plain => simp [chars, opener, inner, Skipped.terminator]
  | endTag name => simp [chars, opener, inner]
  | startTag tag => simp [chars, opener, inner, StartTag.chars, StartTag.inner]
  | expression written => simp [chars, opener, inner, Expression.chars]

/-- Behind its opener a construct is read through its end. -/
theorem reads_inner
    (construct : Construct)
    (behind : List Char) :
    Reads (construct.opener.reverse ++ behind) (construct.openState (Text.size behind))
      (construct.inner (Text.size behind)) .text := by
  cases construct with
  | text chars plain =>
      refine Reads.stay ?_ rfl _
      intro char member behind rest
      obtain ⟨notBracket, notDollar, notHash, _⟩ := plain char member
      simp [openState, step, stepText_of_ne notBracket, opensExpression, notDollar, notHash]
  | skipped form body free plain => exact reads_skipped form body _ free
  | endTag name =>
      exact (reads_tagWord name _ _ true _).append (Reads.single (fun _ => rfl) rfl)
  | startTag tag => exact reads_startTag_inner tag behind
  | expression written => exact reads_expression_inner written _ none _

/-- What may follow the opener so that the pass takes it for one.  A scriptlet
must not go on like a comment, and a tag must go on with a letter. -/
def Continues : Construct → List Char → Prop
  | skipped .scriptlet _ _ _, tail => ¬['-', '-'] <+: tail
  | startTag _, tail => tail.head?.all Char.isAlpha = true
  | _, _ => True

/-- Whatever of a construct the pass sees behind the opener lets it go on. -/
theorem continues
    (construct : Construct)
    (start : Nat)
    {tail more : List Char}
    (part : tail <+: textOf (construct.inner start) ++ more) :
    construct.Continues tail := by
  cases construct with
  | text chars plain => trivial
  | endTag name => trivial
  | expression written => trivial
  | skipped form body free plain =>
      cases form with
      | pageComment => trivial
      | markupComment => trivial
      | scriptlet =>
          intro dashes
          have whole := dashes.trans part
          simp only [inner, textOf_append, textOf_within, Skipped.closer] at whole
          rcases body with _ | ⟨first, _ | ⟨second, rest⟩⟩
          · simp at whole
          · simp at whole
          · apply plain rfl
            simpa using whole
  | startTag tag =>
      cases tail with
      | nil => rfl
      | cons char rest =>
          have charEq : char = tag.name.first := by
            simp only [inner, StartTag.inner, textOf_append, textOf_within, TagWord.chars,
              List.cons_append, List.cons_prefix_cons] at part
            exact part.1
          rw [charEq]
          exact tag.name.letter

/-- The pass takes the opener of a construct for what it is. -/
theorem run_opener
    (construct : Construct)
    (behind tail : List Char)
    (unescapedBehind : unescaped behind = true)
    (continues : construct.Continues tail) :
    run .text 0 behind (construct.opener ++ tail) =
      run (construct.openState (Text.size behind)) 0 (construct.opener.reverse ++ behind)
        tail := by
  cases construct with
  | text chars plain => rfl
  | skipped form body free plain =>
      cases form with
      | pageComment => simp [opener, Skipped.opener, openState, step, stepText, ahead,
          Skipped.terminator, Skipped.closer]
      | markupComment => simp [opener, Skipped.opener, openState, step, stepText, ahead,
          Skipped.terminator, Skipped.closer]
      | scriptlet =>
          have noComment : ['-', '-'].isPrefixOf tail = false := by
            rw [← Bool.not_eq_true, List.isPrefixOf_iff_prefix]
            exact continues
          simp [opener, Skipped.opener, openState, step, stepText, ahead,
            Skipped.terminator, Skipped.closer, noComment]
  | endTag name => simp [opener, openState, step, stepText, ahead]
  | startTag tag =>
      cases tail with
      | nil => rfl
      | cons letter rest =>
          have isLetter : letter.isAlpha = true := continues
          have notPercent : '%' ≠ letter := (ne_of_class isLetter (by decide)).symm
          have notMark : '!' ≠ letter := (ne_of_class isLetter (by decide)).symm
          have notSlash : '/' ≠ letter := (ne_of_class isLetter (by decide)).symm
          simp [opener, openState, step, stepText, ahead, isLetter, notPercent, notMark,
            notSlash]
  | expression written =>
      have isMark : (written.mark.char == '$' || written.mark.char == '#') = true := by
        cases written.mark <;> rfl
      have notBracket : written.mark.char ≠ '<' := by
        cases written.mark <;> decide
      simp [opener, openState, step, stepText_of_ne notBracket, opensExpression, isMark,
        unescapedBehind]

/-- No construct escapes what follows it. -/
theorem getLast?_ne (construct : Construct) : ∀ char ∈ construct.chars.getLast?, char ≠ '\\' := by
  cases construct with
  | text written plain =>
      intro char last
      exact (plain char (List.mem_of_getLast? last)).2.2.2
  | skipped form body free plain => simp [chars, Skipped.terminator]
  | endTag name => simp [chars, List.getLast?_cons]
  | startTag tag => simp [chars, StartTag.chars, List.getLast?_cons]
  | expression written => simp [chars, Expression.chars, List.getLast?_cons]

/-- The pass goes through a whole construct. -/
theorem run_chars
    (construct : Construct)
    (behind tail : List Char)
    (unescapedBehind : unescaped behind = true) :
    run .text 0 behind (construct.chars ++ tail) =
      run .text 0 (construct.chars.reverse ++ behind) tail := by
  rw [construct.chars_eq (Text.size behind), List.append_assoc,
    construct.run_opener behind _ unescapedBehind
      (construct.continues (Text.size behind) (List.prefix_refl _)),
    (construct.reads_inner behind).passes]
  simp

/-- A pass that stops inside a construct gives its context. -/
theorem context_run
    (construct : Construct)
    (behind : List Char)
    (unescapedBehind : unescaped behind = true)
    {offset : Nat}
    (opened : Text.size construct.opener ≤ offset) :
    (run .text 0 behind (Text.reaching offset construct.chars)).context =
      construct.context (Text.size behind) offset := by
  obtain ⟨inside, rfl⟩ := Nat.exists_eq_add_of_le opened
  have seen := reaching_prefix inside (textOf (construct.inner (Text.size behind)))
  rw [construct.chars_eq (Text.size behind), reaching_size_add,
    construct.run_opener behind _ unescapedBehind
      (construct.continues (Text.size behind) (seen.trans (List.prefix_append _ []))),
    (construct.reads_inner behind).context_reaching, construct.context_openState, context,
    Nat.add_sub_cancel_left]

end Construct

/-! ## Pages -/

/-- The pass goes through whole pages, and no page escapes what follows it. -/
theorem run_page
    (constructs : List Construct)
    (behind tail : List Char)
    (unescapedBehind : unescaped behind = true) :
    run .text 0 behind (page constructs ++ tail) =
        run .text 0 ((page constructs).reverse ++ behind) tail ∧
      unescaped ((page constructs).reverse ++ behind) = true := by
  induction constructs generalizing behind with
  | nil => exact ⟨rfl, unescapedBehind⟩
  | cons construct rest inductionHypothesis =>
      have unescapedNext :=
        unescaped_reverse_append construct.getLast?_ne unescapedBehind
      have later := inductionHypothesis (construct.chars.reverse ++ behind) unescapedNext
      have split : page (construct :: rest) = construct.chars ++ page rest := rfl
      rw [split, List.append_assoc, construct.run_chars behind _ unescapedBehind, later.1]
      simpa using later.2

/-- In a well-formed page, the cursor is classified as the grammar says at
every byte offset from the end of a construct's opener through the construct's
end, whatever constructs stand before and behind. -/
theorem classify_eq_context
    (before after : List Construct)
    (construct : Construct)
    (offset : Nat)
    (opened : Text.size construct.opener ≤ offset)
    (inside : offset ≤ Text.size construct.chars) :
    classify (page (before ++ construct :: after)) (Text.size (page before) + offset) =
      construct.context (Text.size (page before)) offset := by
  have split : page (before ++ construct :: after) =
      page before ++ (construct.chars ++ page after) := by
    simp [page]
  obtain ⟨goesThrough, unescapedBefore⟩ :=
    run_page before [] (Text.reaching offset construct.chars) rfl
  have found := construct.context_run ((page before).reverse ++ []) unescapedBefore opened
  rw [Text.size_append, Text.size_reverse, Text.size_nil, Nat.add_zero] at found
  rw [classify, split, reaching_size_add, reaching_append_of_le _ _ inside, goesThrough]
  exact found

/-- A tag with an expression as the value of an attribute. -/
def sampleTag : Construct :=
  .startTag
    { name := ⟨'c', by decide, [':', 'i', 'f'], List.all_eq_true.mp rfl⟩
      attributes :=
        [(⟨' ', by decide, ⟨[], nofun⟩⟩,
          .valued ⟨['t', 'e', 's', 't'], by decide, List.all_eq_true.mp rfl⟩
            ⟨[' '], List.all_eq_true.mp rfl⟩ ⟨[], nofun⟩ .double
            [.expression ⟨.dollar, .literal .double [.plain '\x7d' (by decide)] .done⟩])]
      gap := ⟨[], nofun⟩
      slash := true }

/-- Behind a character of two bytes the tag is `<c:if test ="${"\x7d"}"/>`, and a
cursor behind the brace in its literal stands in an open literal. -/
theorem classify_sampleTag :
    Text.size sampleTag.opener ≤ 17 ∧ 17 ≤ Text.size sampleTag.chars ∧
      classify (page ([.text ['é'] (by simp)] ++ sampleTag :: [])) (2 + 17) =
        .expression 17 true :=
  have opened : Text.size sampleTag.opener ≤ 17 := by decide
  have inside : 17 ≤ Text.size sampleTag.chars := by decide
  ⟨opened, inside,
    (classify_eq_context [.text ['é'] (by simp)] [] sampleTag 17 opened inside).trans
      (by decide)⟩

end Grammar
end Markup
end JspCompletion
