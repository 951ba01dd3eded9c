import JspCompletion.Markup.TagEnd
import JspCompletion.Proofs.Markup.Resumption
import JspCompletion.Proofs.Text.Bytes

/-!
# Where a tag ends

The end of the tag under the cursor is looked for behind the cursor, by a scan
that knows nothing but quotes.  The pass that classifies cursors also knows the
expressions in quoted values, with their braces and string literals.

This module shows that the two agree.  As long as the expressions that open in the
quoted values are closed there, every cursor up to the bracket that the scan finds
is still in the tag, and where that bracket closes the tag, template text follows.
An expression that is left open, or that is closed behind the quote, is what the
scan cannot see.
-/

namespace JspCompletion
namespace Markup

open Cursor Grammar

/-! ## Quotes -/

/-- The quote that is open behind a character. -/
def quoteAfter (quote : Option Char) (char : Char) : Option Char :=
  match quote with
  | some opened => if char == opened then none else some opened
  | none => if char == '"' || char == '\'' then some char else none

/-- The quote that is open behind a text, where `quote` was open in front of it. -/
def openQuote (quote : Option Char) (text : List Char) : Option Char :=
  text.foldl quoteAfter quote

/-- No angle bracket stands outside quotes. -/
def HidesBrackets (quote : Option Char) (text : List Char) : Prop :=
  ∀ front char back, text = front ++ char :: back → openQuote quote front = none →
    char ≠ '<' ∧ char ≠ '>'

/-- A stretch of a text between a quote and the next one of its kind, or the end of
the text. -/
def IsQuotedValue (text value : List Char) : Prop :=
  ∃ front, ∃ quote : Quote, ∃ back, text = front ++ quote.char :: (value ++ back) ∧
    openQuote none front = none ∧ quote.char ∉ value ∧
    (back = [] ∨ back.head? = some quote.char)

/-- Every expression that opens in a value, and is not escaped, is closed in it:
its braces are balanced, outside of closed string literals, up to a brace that
ends it. -/
def ClosesExpressions (value : List Char) : Prop :=
  ∀ front, ∀ mark : Mark, ∀ rest, value = front ++ mark.char :: '\x7b' :: rest →
    front.getLast? ≠ some '\\' →
    ∃ body : Body, ∃ after, rest = body.chars ++ '\x7d' :: after

theorem openQuote_cons
    (quote : Option Char)
    (char : Char)
    (rest : List Char) :
    openQuote quote (char :: rest) = openQuote (quoteAfter quote char) rest := rfl

theorem openQuote_append
    (quote : Option Char)
    (front back : List Char) :
    openQuote quote (front ++ back) = openQuote (openQuote quote front) back :=
  List.foldl_append

/-- Inside quotes nothing but the quote counts. -/
theorem openQuote_of_not_mem
    {quote : Char}
    {text : List Char}
    (absent : quote ∉ text) :
    openQuote (some quote) text = some quote := by
  induction text with
  | nil => rfl
  | cons char rest inductionHypothesis =>
      rw [List.mem_cons, not_or] at absent
      rw [openQuote_cons, quoteAfter, if_neg (by simp [Ne.symm absent.1])]
      exact inductionHypothesis absent.2

/-- A quote opens a value. -/
theorem openQuote_opened
    (quote : Quote)
    {value : List Char}
    (absent : quote.char ∉ value) :
    openQuote none (quote.char :: value) = some quote.char := by
  have opens : quoteAfter none quote.char = some quote.char := by cases quote <;> rfl
  rw [openQuote_cons, opens, openQuote_of_not_mem absent]

/-- The next quote of its kind closes it. -/
theorem openQuote_quoted
    (quote : Quote)
    {value : List Char}
    (absent : quote.char ∉ value) :
    openQuote none (quote.char :: value ++ [quote.char]) = none := by
  have closes : openQuote (some quote.char) [quote.char] = none := by cases quote <;> rfl
  rw [openQuote_append, openQuote_opened quote absent, closes]

theorem IsQuotedValue.append
    {front back value : List Char}
    (isValue : IsQuotedValue back value)
    (closed : openQuote none front = none) :
    IsQuotedValue (front ++ back) value := by
  obtain ⟨before, quote, after, rfl, closedBefore, absent, ends⟩ := isValue
  refine ⟨front ++ before, quote, after, by simp, ?_, absent, ends⟩
  rw [openQuote_append, closed, closedBefore]

namespace HidesBrackets

variable {quote : Option Char} {char : Char} {rest : List Char}

theorem cons
    (visible : quote = none → char ≠ '<' ∧ char ≠ '>')
    (hides : HidesBrackets (quoteAfter quote char) rest) :
    HidesBrackets quote (char :: rest) := by
  intro front other back split closed
  cases front with
  | nil =>
      obtain ⟨rfl, -⟩ := List.cons.inj split
      exact visible closed
  | cons first front =>
      obtain ⟨rfl, restEq⟩ := List.cons.inj split
      exact hides front other back restEq closed

theorem of_append
    {front back : List Char}
    (hides : HidesBrackets none (front ++ back))
    (closed : openQuote none front = none) :
    HidesBrackets none back := by
  rintro before other after rfl closedBefore
  refine hides (front ++ before) other after (by simp) ?_
  rw [openQuote_append, closed, closedBefore]

end HidesBrackets

/-- The scan leaves no bracket outside quotes in front. -/
theorem hidesBrackets_splitAtBracket
    (quote : Option Char)
    (text : List Char) :
    HidesBrackets quote (splitAtBracket quote text).1 := by
  induction text generalizing quote with
  | nil => cases quote <;> simp [splitAtBracket, HidesBrackets]
  | cons char rest inductionHypothesis =>
      cases quote with
      | some quote =>
          apply HidesBrackets.cons _ (inductionHypothesis _)
          intro closed
          cases closed
      | none =>
          simp only [splitAtBracket]
          split
          · simp [HidesBrackets]
          · rename_i notBracket
            exact .cons (fun _ => by simpa using notBracket) (inductionHypothesis _)

/-- The bracket at which the scan stops stands outside quotes. -/
theorem openQuote_splitAtBracket
    {quote : Option Char}
    {text : List Char}
    (stops : (splitAtBracket quote text).2 ≠ []) :
    openQuote quote (splitAtBracket quote text).1 = none := by
  induction text generalizing quote with
  | nil => cases quote <;> simp [splitAtBracket] at stops
  | cons char rest inductionHypothesis =>
      cases quote with
      | some quote => exact inductionHypothesis stops
      | none =>
          simp only [splitAtBracket] at stops ⊢
          split
          · rfl
          · rename_i notBracket
            rw [if_neg notBracket] at stops
            exact inductionHypothesis stops

/-! ## Crossing a part of a tag -/

/-- The pass goes through a text, unless a brace follows, and wherever it stops in
it, the cursor is inside of something. -/
structure Crosses
    (inside : CursorContext → Prop)
    (behind : List Char)
    (before : State)
    (chars : List Char)
    (after : State) : Prop where
  passes : ∀ tail, tail.head? ≠ some '\x7b' →
    run before 0 behind (chars ++ tail) = run after 0 (chars.reverse ++ behind) tail
  stays : ∀ part, part <+: chars → inside (run before 0 behind part).context

theorem forall_prefix_append
    {first second : List Char}
    {holds : List Char → Prop}
    (inFirst : ∀ part, part <+: first → holds part)
    (inSecond : ∀ part, part <+: second → holds (first ++ part)) :
    ∀ part, part <+: first ++ second → holds part := by
  intro part isPart
  rcases List.prefix_or_prefix_of_prefix isPart (List.prefix_append first second) with
    here | ⟨more, rfl⟩
  · exact inFirst part here
  · exact inSecond more ((List.prefix_append_right_inj first).mp isPart)

namespace Crosses

variable {inside : CursorContext → Prop} {behind : List Char} {before between after : State}

theorem nil
    (start : inside before.context) :
    Crosses inside behind before [] before :=
  { passes := fun _ _ => rfl
    stays := by
      intro part isPart
      rw [List.prefix_nil.mp isPart, run_nil]
      exact start }

/-- One part after another that does not begin with a brace. -/
theorem append
    {first second : List Char}
    (crossesFirst : Crosses inside behind before first between)
    (crossesSecond : Crosses inside (first.reverse ++ behind) between second after)
    (noBrace : second.head? ≠ some '\x7b') :
    Crosses inside behind before (first ++ second) after := by
  constructor
  · intro tail noBraceTail
    have noBraceBehind : (second ++ tail).head? ≠ some '\x7b' := by
      cases second with
      | nil => exact noBraceTail
      | cons char rest => exact noBrace
    rw [List.append_assoc, crossesFirst.passes _ noBraceBehind,
      crossesSecond.passes tail noBraceTail]
    simp
  · apply forall_prefix_append crossesFirst.stays
    rintro part ⟨rest, rfl⟩
    have noBracePart : part.head? ≠ some '\x7b' := by
      cases part with
      | nil => simp
      | cons char part => exact noBrace
    rw [crossesFirst.passes part noBracePart]
    exact crossesSecond.stays part (List.prefix_append part rest)

/-- A part that is read whatever comes behind it, and another one. -/
theorem of_reads
    {cells : List Cell}
    {first second : List Char}
    (reads : Reads behind before cells between)
    (text : textOf cells = first)
    (start : inside before.context)
    (within : ∀ cell ∈ cells, inside cell.context)
    (crosses : Crosses inside (first.reverse ++ behind) between second after) :
    Crosses inside behind before (first ++ second) after := by
  subst text
  constructor
  · intro tail noBrace
    rw [List.append_assoc, reads.passes, crosses.passes tail noBrace]
    simp
  · apply forall_prefix_append
    · rintro part ⟨rest, split⟩
      rcases List.eq_nil_or_concat part with rfl | ⟨front, last, rfl⟩
      · rwa [run_nil]
      · rw [List.concat_eq_append, List.append_assoc] at split
        obtain ⟨seen, others, rfl, rfl, othersEq⟩ := List.map_eq_append_iff.mp split.symm
        obtain ⟨cell, back, rfl, rfl, -⟩ := List.map_eq_cons_iff.mp othersEq
        rw [List.concat_eq_append]
        exact (reads.agrees seen cell back rfl).symm ▸ within cell (by simp)
    · intro part isPart
      rw [reads.passes]
      exact crosses.stays part isPart

/-- A single character in front, read whatever comes behind it. -/
theorem of_step
    {char : Char}
    {rest : List Char}
    (stepEq : ∀ rest, step before behind char rest = (between, 0))
    (start : inside before.context)
    (crosses : Crosses inside (char :: behind) between rest after) :
    Crosses inside behind before (char :: rest) after := by
  refine of_reads (Reads.single stepEq rfl) rfl start ?_ crosses
  intro cell member
  rw [List.mem_singleton.mp member]
  simpa using crosses.stays [] List.nil_prefix

end Crosses

/-! ## Quoted values -/

section Values

variable {inside : CursorContext → Prop} {head : ValueHead}

/-- A character in a value that opens no expression, in front of the rest. -/
theorem Crosses.cons_value
    {behind : List Char}
    {after : State}
    {char : Char}
    {rest : List Char}
    (notQuote : char ≠ head.quote)
    (notOpened : opensExpression behind char rest = false)
    (start : inside (State.value head).context)
    (crosses : Crosses inside (char :: behind) (.value head) rest after) :
    Crosses inside behind (.value head) (char :: rest) after := by
  have stepEq (next : List Char) (sameHead : next.head? = some '\x7b' → rest.head? = some '\x7b') :
      step (.value head) behind char next = (.value head, 0) := by
    have closed : opensExpression behind char next = false := by
      simp only [opensExpression, Bool.and_eq_false_iff, beq_eq_false_iff_ne] at notOpened ⊢
      exact notOpened.imp_left fun mark => mark.imp_right fun noBrace brace => noBrace (sameHead brace)
    simp [step, notQuote, closed]
  constructor
  · intro tail noBrace
    have headEq : (rest ++ tail).head? = some '\x7b' → rest.head? = some '\x7b' := by
      cases rest with
      | nil => exact fun brace => absurd brace noBrace
      | cons next rest => exact id
    rw [List.cons_append, run_zero_cons, stepEq _ headEq, crosses.passes tail noBrace]
    simp
  · intro part isPart
    cases part with
    | nil => rwa [run_nil]
    | cons first part =>
        obtain ⟨rfl, more, rfl⟩ := List.cons_prefix_cons.mp isPart
        have headEq : part.head? = some '\x7b' → (part ++ more).head? = some '\x7b' := by
          cases part with
          | nil => simp
          | cons next part => exact id
        rw [run_zero_cons, stepEq _ headEq]
        exact crosses.stays part (List.prefix_append part more)

/-- All of a body is in the expression. -/
theorem context_of_mem_cells
    {body : Body}
    {start : Nat}
    {cell : Cell}
    (member : cell ∈ body.cells start) :
    ∃ inString, cell.context = .expression start inString := by
  induction body with
  | done => cases member
  | plain char ordinary rest inductionHypothesis =>
      rcases List.mem_cons.mp member with rfl | later
      · exact ⟨false, rfl⟩
      · exact inductionHypothesis later
  | literal quote parts rest inductionHypothesis =>
      simp only [Body.cells, List.mem_cons, List.mem_append, within, List.mem_map] at member
      rcases member with rfl | ⟨_, -, rfl⟩ | rfl | later
      · exact ⟨true, rfl⟩
      · exact ⟨true, rfl⟩
      · exact ⟨false, rfl⟩
      · exact inductionHypothesis later
  | braces inner rest innerHypothesis restHypothesis =>
      simp only [Body.cells, List.mem_cons, List.mem_append] at member
      rcases member with rfl | within | rfl | later
      · exact ⟨false, rfl⟩
      · exact innerHypothesis within
      · exact ⟨false, rfl⟩
      · exact restHypothesis later

/-- What stands where an expression opens. -/
theorem exists_mark_of_opensExpression
    {behind rest : List Char}
    {char : Char}
    (opens : opensExpression behind char rest = true) :
    ∃ mark : Mark, ∃ more, char = mark.char ∧ rest = '\x7b' :: more ∧ unescaped behind = true := by
  simp only [opensExpression, Bool.and_eq_true, Bool.or_eq_true, beq_iff_eq] at opens
  obtain ⟨⟨isMark, brace⟩, isUnescaped⟩ := opens
  obtain ⟨more, restEq⟩ := List.head?_eq_some_iff.mp brace
  rcases isMark with rfl | rfl
  · exact ⟨.dollar, more, rfl, restEq, isUnescaped⟩
  · exact ⟨.hash, more, rfl, restEq, isUnescaped⟩

variable
  (inExpression : ∀ start inString, inside (.expression start inString))

include inExpression

/-- All of an expression in a value is in the value or in the expression. -/
theorem inside_of_mem_expression
    (inValue : inside (State.value head).context)
    (expression : Expression)
    (start : Nat) :
    ∀ cell ∈ expression.cells (State.value head).context start, inside cell.context := by
  intro cell member
  simp only [Expression.cells, Expression.inner, List.mem_cons, List.mem_append,
    List.not_mem_nil, or_false] at member
  rcases member with rfl | rfl | inBody | rfl
  · exact inValue
  · exact inExpression _ _
  · obtain ⟨inString, contextEq⟩ := context_of_mem_cells inBody
    rw [contextEq]
    exact inExpression _ _
  · exact inValue

/-- The rest of a value is crossed, where `read` is the part in front. -/
theorem crosses_value
    {quote : Quote}
    (sameQuote : head.quote = quote.char)
    (inValue : inside (State.value head).context)
    {base read left : List Char}
    (absent : quote.char ∉ left)
    (closes : ClosesExpressions (read ++ left)) :
    Crosses inside (read.reverse ++ base) (.value head) left (.value head) := by
  induction length : left.length using Nat.strong_induction_on generalizing read left with
  | _ length inductionHypothesis =>
      subst length
      cases left with
      | nil => exact .nil inValue
      | cons char rest =>
          by_cases opens : opensExpression (read.reverse ++ base) char rest = true
          · -- The pass and the hypothesis see the same opener, so it is read to its end.
            obtain ⟨mark, more, rfl, rfl, isUnescaped⟩ := exists_mark_of_opensExpression opens
            have notEscaped : read.getLast? ≠ some '\\' := by
              intro backslash
              simp [unescaped, List.head?_append, backslash] at isUnescaped
            obtain ⟨body, after, rfl⟩ := closes read mark more rfl notEscaped
            let expression : Expression := { mark, body }
            have split : mark.char :: '\x7b' :: (body.chars ++ '\x7d' :: after) =
                expression.chars ++ after := by
              simp [Expression.chars, expression]
            rw [split] at absent closes ⊢
            have absentAfter : quote.char ∉ after := fun member =>
              absent (List.mem_append_right _ member)
            have closesAfter : ClosesExpressions ((read ++ expression.chars) ++ after) := by
              rwa [List.append_assoc]
            have shorter : after.length <
                (mark.char :: '\x7b' :: (body.chars ++ '\x7d' :: after)).length := by
              simp only [List.length_cons, List.length_append]
              omega
            have later := inductionHypothesis after.length shorter absentAfter closesAfter rfl
            rw [List.reverse_append, List.append_assoc] at later
            exact .of_reads
              (reads_part (.expression expression) head sameQuote _ isUnescaped)
              (textOf_part_cells ..) inValue
              (inside_of_mem_expression inExpression inValue expression _) later
          · rw [List.mem_cons, not_or] at absent
            have notQuote : char ≠ head.quote := by
              rw [sameQuote]
              exact Ne.symm absent.1
            have closesRest : ClosesExpressions ((read ++ [char]) ++ rest) := by
              simpa using closes
            have later := inductionHypothesis rest.length (by simp) absent.2 closesRest rfl
            rw [List.reverse_append] at later
            exact .cons_value notQuote (Bool.not_eq_true _ ▸ opens) inValue later

end Values

/-! ## The rest of a tag -/

/-- The value that a quote between attributes opens. -/
def openedValue (tag : TagHead) (behind : List Char) (quote : Quote) : ValueHead :=
  { tag
    attr := attributeBefore behind
    quote := quote.char
    start := Text.size behind + 1 }

theorem step_inTag_quote
    (tag : TagHead)
    (behind : List Char)
    (quote : Quote)
    (rest : List Char) :
    step (.inTag tag) behind quote.char rest = (.value (openedValue tag behind quote), 0) := by
  cases quote <;> rfl

theorem step_value_quote
    (head : ValueHead)
    (behind rest : List Char) :
    step (.value head) behind head.quote rest = (.inTag head.tag, 0) := by
  simp [step]

theorem exists_quote
    {char : Char}
    (isQuote : char = '"' ∨ char = '\'') :
    ∃ quote : Quote, char = quote.char := by
  rcases isQuote with rfl | rfl
  · exact ⟨.double, rfl⟩
  · exact ⟨.single, rfl⟩

/-- Behind a quote stands a value, and behind that the quote again or nothing. -/
theorem exists_value
    (quote : Char)
    (rest : List Char) :
    ∃ value back, rest = value ++ back ∧ quote ∉ value ∧
      (back = [] ∨ back.head? = some quote) := by
  refine ⟨rest.takeWhile (· != quote), rest.dropWhile (· != quote),
    List.takeWhile_append_dropWhile.symm, ?_, ?_⟩
  · intro member
    simpa using List.mem_takeWhile_imp member
  · have stops := List.head?_dropWhile_not (· != quote) rest
    cases split : rest.dropWhile (· != quote) with
    | nil => exact Or.inl rfl
    | cons char back =>
        rw [split] at stops
        right
        simpa using stops

section Tail

variable
  {inside : CursorContext → Prop}
  {tag : TagHead}
  (inExpression : ∀ start inString, inside (.expression start inString))
  (inTag : inside (State.inTag tag).context)
  (inValue : ∀ head : ValueHead, head.tag = tag → inside (State.value head).context)

include inExpression inTag inValue

/-- A quote and the value behind it are crossed. -/
theorem crosses_opened
    {quote : Quote}
    {value : List Char}
    (absent : quote.char ∉ value)
    (closes : ClosesExpressions value)
    (behind : List Char) :
    Crosses inside behind (.inTag tag) (quote.char :: value)
      (.value (openedValue tag behind quote)) := by
  refine .of_step (step_inTag_quote tag behind quote) inTag ?_
  have closesValue : ClosesExpressions ([] ++ value) := closes
  exact crosses_value inExpression rfl (inValue _ rfl) absent closesValue

/-- Everything up to a bracket outside quotes is crossed, and behind it the pass is
between attributes unless a quote is open. -/
theorem exists_crosses_tail
    {tail : List Char}
    (hides : HidesBrackets none tail)
    (closes : ∀ value, IsQuotedValue tail value → ClosesExpressions value)
    (behind : List Char) :
    ∃ after, Crosses inside behind (.inTag tag) tail after ∧
      (openQuote none tail = none → after = .inTag tag) := by
  induction length : tail.length using Nat.strong_induction_on generalizing tail behind with
  | _ length inductionHypothesis =>
      subst length
      -- What is left behind a part that leaves no quote open is crossed.
      have goesOn (done rest : List Char) (tailEq : tail = done ++ rest) (nonempty : done ≠ [])
          (closed : openQuote none done = none) (behind : List Char) :
          ∃ after, Crosses inside behind (.inTag tag) rest after ∧
            (openQuote none tail = none → after = .inTag tag) := by
        subst tailEq
        rw [openQuote_append, closed]
        refine inductionHypothesis rest.length ?_ (hides.of_append closed)
          (fun value isValue => closes value (isValue.append closed)) behind rfl
        have positive := List.length_pos_of_ne_nil nonempty
        rw [List.length_append]
        omega
      cases tail with
      | nil => exact ⟨.inTag tag, .nil inTag, fun _ => rfl⟩
      | cons char rest =>
          obtain ⟨notOpen, notEnd⟩ := hides [] char rest rfl rfl
          by_cases isQuote : char = '"' ∨ char = '\''
          · obtain ⟨quote, rfl⟩ := exists_quote isQuote
            obtain ⟨value, back, rfl, absent, ends⟩ := exists_value quote.char rest
            have crossesValue := crosses_opened inExpression inTag inValue absent
              (closes value ⟨[], quote, back, rfl, rfl, absent, ends⟩) behind
            rcases ends with rfl | found
            · -- The value is not closed, and the tag is not left.
              rw [List.append_nil]
              refine ⟨_, crossesValue, ?_⟩
              intro closed
              rw [openQuote_opened quote absent] at closed
              cases closed
            · obtain ⟨more, rfl⟩ := List.head?_eq_some_iff.mp found
              obtain ⟨after, crosses, closing⟩ := goesOn (quote.char :: value ++ [quote.char]) more
                (by simp) (by simp) (openQuote_quoted quote absent)
                (quote.char :: ((quote.char :: value).reverse ++ behind))
              have noBrace : (quote.char :: more).head? ≠ some '\x7b' := by
                cases quote <;> simp [Quote.char]
              refine ⟨after, crossesValue.append ?_ noBrace, closing⟩
              exact .of_step (step_value_quote _ _) (inValue _ rfl) crosses
          · obtain ⟨notDouble, notSingle⟩ := not_or.mp isQuote
            have closed : openQuote none [char] = none := by
              simp [openQuote, quoteAfter, notDouble, notSingle]
            obtain ⟨after, crosses, closing⟩ :=
              goesOn [char] rest rfl (by simp) closed (char :: behind)
            refine ⟨after, .of_step ?_ inTag crosses, closing⟩
            exact step_inTag tag notEnd notDouble notSingle notOpen behind

/-- Behind the attributes of a tag, everything up to the bracket that the scan finds
is crossed. -/
theorem exists_crosses_behind
    {back : List Char}
    (closes : ∀ value, IsQuotedValue (tagTail back) value → ClosesExpressions value)
    (behind : List Char) :
    ∃ after, Crosses inside behind (.inTag tag) (back.takeWhile isNameChar ++ tagTail back) after ∧
      (isClosedBehind back = true → after = .inTag tag) := by
  let name := back.takeWhile isNameChar
  have stepEq : ∀ char ∈ name, ∀ behind rest,
      step (.inTag tag) behind char rest = (.inTag tag, 0) := by
    intro char member
    exact step_inTag_of_class tag (List.mem_takeWhile_imp member) (by decide)
  obtain ⟨after, crosses, closing⟩ := exists_crosses_tail inExpression inTag inValue
    (hidesBrackets_splitAtBracket none (afterName back)) closes (name.reverse ++ behind)
  refine ⟨after, ?_, ?_⟩
  · refine .of_reads (Reads.stay stepEq rfl behind) (textOf_within ..) inTag ?_ crosses
    intro cell member
    obtain ⟨char, -, rfl⟩ := List.mem_map.mp member
    exact inTag
  · intro isClosed
    apply closing
    apply openQuote_splitAtBracket
    intro nothing
    rw [isClosedBehind, nothing] at isClosed
    cases isClosed

end Tail

/-! ## Cursors up to the end of a tag -/

/-- The context at a border is that of a pass over the text in front. -/
theorem classify_size
    (front back : List Char) :
    classify (front ++ back) (Text.size front) = (run .text 0 [] front).context := by
  have nothing : Text.reaching 0 back = [] := by cases back <;> rfl
  have reached := reaching_size_add front back 0
  rw [nothing, List.append_nil, Nat.add_zero] at reached
  rw [classify, reached]

theorem eq_inTag_of_context
    {state : State}
    {tagStart : Nat}
    {name : String}
    (context : state.context = .attributeName tagStart name) :
    ∃ tag : TagHead, state = .inTag tag ∧ tag.closing = false ∧ tag.start = tagStart ∧
      String.ofList tag.name = name := by
  cases state with
  | inTag tag =>
      simp only [State.context] at context
      split at context
      · cases context
      · rename_i isOpen
        cases context
        exact ⟨tag, rfl, Bool.not_eq_true _ ▸ isOpen, rfl, rfl⟩
  | text => cases context
  | tagName start nameStart closing => cases context
  | value head => cases context
  | expression start depth literal within => cases context
  | ignored terminator => cases context

/-- A border in a stretch of a text stands behind a front part of the stretch. -/
theorem exists_part_of_isBorder
    {front stretch more : List Char}
    {cursor : Nat}
    (border : Text.isBorder (front ++ (stretch ++ more)) cursor = true)
    (fromFront : Text.size front ≤ cursor)
    (upToStretch : cursor ≤ Text.size (front ++ stretch)) :
    ∃ part rest, part <+: stretch ∧ stretch ++ more = part ++ rest ∧
      cursor = Text.size (front ++ part) := by
  obtain ⟨upTo, rest, textEq, rfl⟩ := (Text.isBorder_iff ..).mp border
  obtain ⟨part, rfl⟩ : front <+: upTo :=
    Text.prefix_of_size_le ⟨stretch ++ more, rfl⟩ ⟨rest, textEq.symm⟩ fromFront
  rw [List.append_assoc] at textEq
  have partEq : stretch ++ more = part ++ rest := List.append_cancel_left textEq
  have isPart : part <+: stretch := by
    apply Text.prefix_of_size_le ⟨rest, partEq.symm⟩ ⟨more, rfl⟩
    rw [Text.size_append, Text.size_append] at upToStretch
    omega
  exact ⟨part, rest, isPart, partEq, rfl⟩

/-- A pass that is between the attributes of a tag goes on from there. -/
theorem run_append_of_inTag
    {front : List Char}
    {tag : TagHead}
    (stateEq : run .text 0 [] front = .inTag tag)
    (part : List Char) :
    run .text 0 [] (front ++ part) = run (.inTag tag) 0 front.reverse part := by
  have hasRead : (State.inTag tag).HasRead front := by
    refine ⟨trivial, ?_⟩
    intro isText
    cases isText
  rw [run_append_of_hasRead hasRead (fun _ => Nat.zero_le _) stateEq, List.append_nil]

theorem takeWhile_append_tagTail_append (back : List Char) :
    (back.takeWhile isNameChar ++ tagTail back) ++ (splitAtBracket none (afterName back)).2 =
      back := by
  rw [List.append_assoc, tagTail, splitAtBracket_append, afterName,
    List.takeWhile_append_dropWhile]

/-- The cursor is in the tag that starts at an offset and has a name: between its
attributes, in one of its values or in an expression. -/
def CursorContext.StaysIn (tagStart : Nat) (name : String) : CursorContext → Prop
  | attributeName start tag => start = tagStart ∧ tag = name
  | attributeValue tag _ _ => tag = name
  | expression _ _ => True
  | text | ignored | tagName _ _ => False

/-- Let the cursor stand between the attributes of a tag, and let the rest of the
tag be what the scan behind the cursor says it is.  If all expressions that open in
its quoted values, and are not escaped, are closed in these values, every border
from the cursor to the end of that rest is still in the tag; and if the bracket that
ends the rest closes the tag, template text follows. -/
theorem classify_stays_in_tag
    (text : List Char)
    (offset tagStart : Nat)
    (name : String)
    (border : Text.isBorder text offset = true)
    (between : classify text offset = .attributeName tagStart name)
    (closes : ∀ value, IsQuotedValue (tagTail (Text.after offset text)) value →
      ClosesExpressions value) :
    let behindCursor := Text.after offset text
    let stop := offset + Text.size (behindCursor.takeWhile isNameChar) +
      Text.size (tagTail behindCursor)
    (∀ cursor, Text.isBorder text cursor = true → offset ≤ cursor → cursor ≤ stop →
      (classify text cursor).StaysIn tagStart name) ∧
    (isClosedBehind behindCursor = true → classify text (stop + 1) = .text) := by
  obtain ⟨front, back, rfl, rfl⟩ := (Text.isBorder_iff ..).mp border
  rw [Text.after_size_append] at closes ⊢
  intro behindCursor stop
  rw [classify_size] at between
  obtain ⟨tag, stateEq, isStart, rfl, rfl⟩ := eq_inTag_of_context between
  let inside := CursorContext.StaysIn tag.start (String.ofList tag.name)
  have inExpression : ∀ start inString, inside (.expression start inString) := fun _ _ => trivial
  have inTag : inside (State.inTag tag).context := by
    rw [State.context, isStart]
    exact ⟨rfl, rfl⟩
  have inValue : ∀ head : ValueHead, head.tag = tag → inside (State.value head).context := by
    rintro head rfl
    rfl
  obtain ⟨after, crosses, closing⟩ :=
    exists_crosses_behind inExpression inTag inValue closes front.reverse
  let stretch := back.takeWhile isNameChar ++ tagTail back
  have backEq : stretch ++ (splitAtBracket none (afterName back)).2 = back :=
    takeWhile_append_tagTail_append back
  have stopEq : stop = Text.size (front ++ stretch) := by
    simp only [stop, stretch, behindCursor, Text.size_append, Nat.add_assoc]
  constructor
  · intro cursor isBorder inOrder inStretch
    rw [← backEq] at isBorder
    rw [stopEq] at inStretch
    obtain ⟨part, rest, isPart, partEq, rfl⟩ := exists_part_of_isBorder isBorder inOrder inStretch
    rw [← backEq, partEq, ← List.append_assoc, classify_size, run_append_of_inTag stateEq]
    exact crosses.stays part isPart
  · intro isClosed
    obtain ⟨more, remainder⟩ : ∃ more, (splitAtBracket none (afterName back)).2 = '>' :: more := by
      apply List.head?_eq_some_iff.mp
      simpa [isClosedBehind] using isClosed
    have textEq : front ++ back = (front ++ (stretch ++ ['>'])) ++ more := by
      rw [← backEq, remainder]
      simp
    have sizeEq : stop + 1 = Text.size (front ++ (stretch ++ ['>'])) := by
      rw [stopEq]
      simp only [Text.size_append, Text.size_cons, Text.size_nil]
      rw [show '>'.utf8Size = 1 from rfl]
      omega
    rw [textEq, sizeEq, classify_size, run_append_of_inTag stateEq,
      crosses.passes ['>'] (by decide), closing isClosed]
    rfl

/-- A tag with an expression that holds a bracket. -/
def sampleTail : List Char :=
  "<a b=\"$\x7b<\x7d\">".toList

/-- What is left of the sample behind the name of its attribute has one value, and
the expression in it is closed. -/
theorem closesExpressions_sampleTail
    {value : List Char}
    (isValue : IsQuotedValue "=\"$\x7b<\x7d\"".toList value) :
    ClosesExpressions value := by
  have valueEq : value = "$\x7b<\x7d".toList := by
    obtain ⟨front, quote, back, split, closed, absent, ends⟩ := isValue
    cases quote with
    | single => simp [Quote.char, List.cons_eq_append_iff] at split
    | double =>
        simp only [Quote.char] at split absent ends
        simp [List.cons_eq_append_iff] at split
        rcases split with ⟨_, rfl, ⟨rfl, split⟩ | ⟨rfl, -⟩⟩
        · rcases ends with rfl | found
          · rw [List.append_nil] at split
            rw [split] at absent
            exact absurd (by decide) absent
          · obtain ⟨more, rfl⟩ := List.head?_eq_some_iff.mp found
            simp [List.append_eq_cons_iff, List.cons_eq_append_iff] at split
            exact split.1
        · cases closed
  intro front mark rest split _
  rw [valueEq] at split
  simp [List.cons_eq_append_iff] at split
  obtain ⟨-, -, rfl⟩ := split
  exact ⟨.plain '<' (by decide) .done, [], rfl⟩

/-- The scan is not misled by the bracket, and template text follows the tag. -/
theorem sampleTail_stays_in_tag :
    Text.isBorder sampleTail 3 = true ∧ classify sampleTail 3 = .attributeName 0 "a" ∧
      (∀ value, IsQuotedValue (tagTail (Text.after 3 sampleTail)) value →
        ClosesExpressions value) ∧
      (classify sampleTail 8).StaysIn 0 "a" ∧ classify sampleTail 12 = .text := by
  have border : Text.isBorder sampleTail 3 = true := by decide
  have between : classify sampleTail 3 = .attributeName 0 "a" := by decide
  have tailEq : tagTail (Text.after 3 sampleTail) = "=\"$\x7b<\x7d\"".toList := by decide
  have closes : ∀ value, IsQuotedValue (tagTail (Text.after 3 sampleTail)) value →
      ClosesExpressions value := by
    rw [tailEq]
    exact fun _ => closesExpressions_sampleTail
  have stays := classify_stays_in_tag sampleTail 3 0 "a" border between closes
  exact ⟨border, between, closes, stays.1 8 (by decide) (by decide) (by decide),
    stays.2 (by decide)⟩

end Markup
end JspCompletion
