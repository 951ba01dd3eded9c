import JspCompletion.Proofs.Markup.Grammar
import Mathlib.Data.List.Infix

/-!
# Reading the parts of a page

The pass over a page reads the parts of its grammar one after the other.  The
relation `Reads` says of one part that the pass goes through it whatever comes
behind, and that a pass which stops inside it gives the context of the grammar.
The relation composes, so each part of the grammar has one lemma, built from
the lemmas of its own parts.
-/

namespace JspCompletion
namespace Markup
namespace Grammar

open Cursor

/-! ## The text of cells -/

@[simp] theorem textOf_nil : textOf [] = [] := rfl

@[simp] theorem textOf_cons
    (cell : Cell)
    (rest : List Cell) :
    textOf (cell :: rest) = cell.char :: textOf rest := rfl

@[simp] theorem textOf_append
    (left right : List Cell) :
    textOf (left ++ right) = textOf left ++ textOf right :=
  List.map_append

@[simp] theorem textOf_within
    (context : CursorContext)
    (chars : List Char) :
    textOf (within context chars) = chars := by
  simp [textOf, within, Function.comp_def]

theorem within_append
    (context : CursorContext)
    (left right : List Char) :
    within context (left ++ right) = within context left ++ within context right :=
  List.map_append

@[simp] theorem textOf_body_cells
    (body : Body)
    (start : Nat) :
    textOf (body.cells start) = body.chars := by
  induction body with
  | done => rfl
  | plain char ordinary rest inductionHypothesis =>
      simp [Body.cells, Body.chars, inductionHypothesis]
  | literal quote parts rest inductionHypothesis =>
      simp [Body.cells, Body.chars, inductionHypothesis]
  | braces inner rest innerHypothesis restHypothesis =>
      simp [Body.cells, Body.chars, innerHypothesis, restHypothesis]

@[simp] theorem textOf_expression_inner
    (expression : Expression)
    (outer : CursorContext)
    (start : Nat) :
    textOf (expression.inner outer start) = expression.body.chars ++ ['\x7d'] := by
  simp [Expression.inner]

@[simp] theorem textOf_part_cells
    {quote : Quote}
    (part : ValuePart quote)
    (context : CursorContext)
    (start : Nat) :
    textOf (part.cells context start) = part.chars := by
  cases part with
  | plain char ordinary => rfl
  | expression written =>
      simp [ValuePart.cells, ValuePart.chars, Expression.cells, Expression.chars]

@[simp] theorem textOf_valueCells
    {quote : Quote}
    (parts : List (ValuePart quote))
    (context : CursorContext)
    (start : Nat) :
    textOf (valueCells context start parts) = parts.flatMap (·.chars) := by
  induction parts generalizing start with
  | nil => rfl
  | cons part rest inductionHypothesis =>
      simp [valueCells, inductionHypothesis]

@[simp] theorem textOf_attribute_cells
    (attr : TagAttribute)
    (tagName : String)
    (between : CursorContext)
    (start : Nat) :
    textOf (attr.cells tagName between start) = attr.chars := by
  cases attr <;> simp [TagAttribute.cells, TagAttribute.chars]

@[simp] theorem textOf_attributeCells
    (attributes : List (Space × TagAttribute))
    (tagName : String)
    (between : CursorContext)
    (start : Nat) :
    textOf (StartTag.attributeCells tagName between start attributes) =
      StartTag.attributeChars attributes := by
  induction attributes generalizing start with
  | nil => rfl
  | cons item rest inductionHypothesis =>
      simp [StartTag.attributeCells, StartTag.attributeChars, inductionHypothesis]

/-! ## Going through cells -/

@[simp] theorem run_nil
    (state : State)
    (skip : Nat)
    (behind : List Char) :
    run state skip behind [] = state := by
  rw [run]

@[simp] theorem run_zero_cons
    (state : State)
    (behind : List Char)
    (char : Char)
    (rest : List Char) :
    run state 0 behind (char :: rest) =
      run (step state behind char rest).1 (step state behind char rest).2
        (char :: behind) rest := by
  rw [run]

@[simp] theorem run_succ_cons
    (state : State)
    (skip : Nat)
    (behind : List Char)
    (char : Char)
    (rest : List Char) :
    run state (skip + 1) behind (char :: rest) = run state skip (char :: behind) rest := by
  rw [run]

/-- The pass goes through the cells from one state to another, and if it stops
among them it is in the context of the cell read last. -/
structure Reads
    (behind : List Char)
    (before : State)
    (cells : List Cell)
    (after : State) : Prop where
  /-- Whatever comes behind the cells is read in the other state. -/
  passes : ∀ tail,
    run before 0 behind (textOf cells ++ tail) =
      run after 0 ((textOf cells).reverse ++ behind) tail
  /-- A pass that stops behind a cell is in its context. -/
  agrees : ∀ front cell back, cells = front ++ cell :: back →
    (run before 0 behind (textOf front ++ [cell.char])).context = cell.context

namespace Reads

theorem nil
    (behind : List Char)
    (state : State) :
    Reads behind state [] state :=
  { passes := fun _ => rfl
    agrees := by simp }

/-- One part after another. -/
theorem append
    {behind : List Char}
    {before between after : State}
    {first second : List Cell}
    (readsFirst : Reads behind before first between)
    (readsSecond : Reads ((textOf first).reverse ++ behind) between second after) :
    Reads behind before (first ++ second) after :=
  { passes := by
      intro tail
      rw [textOf_append, List.append_assoc, readsFirst.passes, readsSecond.passes]
      simp
    agrees := by
      intro front cell back equal
      rcases List.append_eq_append_iff.mp equal with
        ⟨middle, frontEq, secondEq⟩ | ⟨middle, firstEq, tailEq⟩
      · rw [frontEq, textOf_append, List.append_assoc, readsFirst.passes]
        exact readsSecond.agrees middle cell back secondEq
      · cases middle with
        | nil =>
            have frontEq : first = front := by simpa using firstEq
            have atStart := readsSecond.agrees [] cell back (by simpa using tailEq.symm)
            rw [← frontEq, readsFirst.passes]
            exact atStart
        | cons head middle =>
            have sameCell : cell = head := (List.cons.inj tailEq).1
            rw [sameCell]
            exact readsFirst.agrees front head middle firstEq }

/-- One part, whose text is known, after another. -/
theorem trans
    {behind chars : List Char}
    {before between after : State}
    {first second : List Cell}
    (readsFirst : Reads behind before first between)
    (text : textOf first = chars)
    (readsSecond : Reads (chars.reverse ++ behind) between second after) :
    Reads behind before (first ++ second) after := by
  subst text
  exact readsFirst.append readsSecond

/-- A single character, read whatever comes behind it. -/
theorem single
    {behind : List Char}
    {before after : State}
    {char : Char}
    {context : CursorContext}
    (stepEq : ∀ rest, step before behind char rest = (after, 0))
    (contextEq : after.context = context) :
    Reads behind before [{ char, context }] after :=
  { passes := by
      intro tail
      simp [stepEq]
    agrees := by
      intro front cell back equal
      cases front with
      | nil =>
          have cellEq := (List.cons.inj equal).1
          subst cellEq
          simpa [stepEq] using contextEq
      | cons head front =>
          simp at equal }

/-- A character in front of further cells. -/
theorem cons
    {behind : List Char}
    {before between after : State}
    {char : Char}
    {context : CursorContext}
    {cells : List Cell}
    (stepEq : ∀ rest, step before behind char rest = (between, 0))
    (contextEq : between.context = context)
    (reads : Reads (char :: behind) between cells after) :
    Reads behind before ({ char, context } :: cells) after :=
  (single stepEq contextEq).append reads

/-- A form of two characters.  Where the pass stops between them, it has not
seen the second. -/
theorem pair
    {behind : List Char}
    {before cut after : State}
    {first second : Char}
    {skip : Nat}
    {cutContext context : CursorContext}
    (stepEq : ∀ rest, step before behind first (second :: rest) = (after, 1))
    (cutEq : step before behind first [] = (cut, skip))
    (cutContextEq : cut.context = cutContext)
    (contextEq : after.context = context) :
    Reads behind before
      [{ char := first, context := cutContext }, { char := second, context }] after :=
  { passes := by
      intro tail
      simp [stepEq]
    agrees := by
      intro front cell back equal
      rcases front with _ | ⟨head, _ | ⟨next, front⟩⟩
      · have cellEq := (List.cons.inj equal).1
        subst cellEq
        simpa [cutEq] using cutContextEq
      · have headEq := (List.cons.inj equal).1
        have cellEq := (List.cons.inj (List.cons.inj equal).2).1
        subst headEq cellEq
        simpa [stepEq] using contextEq
      · simp at equal }

/-- Characters that leave the state as it is. -/
theorem stay
    {state : State}
    {context : CursorContext}
    {chars : List Char}
    (stepEq : ∀ char ∈ chars, ∀ behind rest, step state behind char rest = (state, 0))
    (contextEq : state.context = context)
    (behind : List Char) :
    Reads behind state (within context chars) state := by
  induction chars generalizing behind with
  | nil => exact nil behind state
  | cons char rest inductionHypothesis =>
      refine cons (stepEq char List.mem_cons_self behind) contextEq ?_
      apply inductionHypothesis
      intro other member
      exact stepEq other (List.mem_cons_of_mem _ member)

end Reads

/-! ## Expressions -/

/-- A literal goes on through its parts. -/
theorem reads_literalParts
    {quote : Quote}
    (parts : List (LiteralPart quote))
    (start depth : Nat)
    (around : Option ValueHead)
    (behind : List Char) :
    Reads behind (.expression start depth (some quote.char) around)
      (within (.expression start true) (parts.flatMap (·.chars)))
      (.expression start depth (some quote.char) around) := by
  induction parts generalizing behind with
  | nil => exact Reads.nil behind _
  | cons part rest inductionHypothesis =>
      rw [List.flatMap_cons, within_append]
      refine Reads.append ?_ (inductionHypothesis _)
      cases part with
      | plain char ordinary =>
          refine Reads.single (fun _ => ?_) rfl
          simp [step, stepExpression, ordinary]
      | escaped char =>
          exact Reads.pair (fun _ => rfl) rfl rfl rfl

/-- A body leaves the pass at the brace depth at which it found it. -/
theorem reads_body
    (body : Body)
    (start depth : Nat)
    (around : Option ValueHead)
    (behind : List Char) :
    Reads behind (.expression start depth none around) (body.cells start)
      (.expression start depth none around) := by
  induction body generalizing depth behind with
  | done => exact Reads.nil behind _
  | plain char ordinary rest inductionHypothesis =>
      refine Reads.cons (fun _ => ?_) rfl (inductionHypothesis depth _)
      simp [step, stepExpression, ordinary]
  | literal quote parts rest inductionHypothesis =>
      have opens (behind rest : List Char) :
          step (.expression start depth none around) behind quote.char rest =
            (.expression start depth (some quote.char) around, 0) := by
        cases quote <;> rfl
      have closes (behind rest : List Char) :
          step (.expression start depth (some quote.char) around) behind quote.char rest =
            (.expression start depth none around, 0) := by
        cases quote <;> rfl
      refine Reads.cons (opens behind) rfl ?_
      refine (reads_literalParts parts start depth around _).append ?_
      exact Reads.cons (closes _) rfl (inductionHypothesis depth _)
  | braces inner rest innerHypothesis restHypothesis =>
      have opens (rest : List Char) :
          step (.expression start depth none around) behind '\x7b' rest =
            (.expression start (depth + 1) none around, 0) := rfl
      refine Reads.cons opens rfl ?_
      refine (innerHypothesis (depth + 1) _).append ?_
      exact Reads.cons (fun _ => rfl) rfl (restHypothesis depth _)

/-- What the pass goes back to behind an expression. -/
def stateAround : Option ValueHead → State
  | none => .text
  | some head => .value head

/-- Behind its opener an expression is read through its closing brace. -/
theorem reads_expression_inner
    (expression : Expression)
    (start : Nat)
    (around : Option ValueHead)
    (behind : List Char) :
    Reads behind (.expression start 0 none around)
      (expression.inner (stateAround around).context start) (stateAround around) := by
  refine (reads_body expression.body start 0 around behind).append ?_
  refine Reads.single (fun _ => ?_) rfl
  cases around <;> rfl

/-! ## Attribute values -/

/-- What an expression or a value ends in does not escape what follows. -/
theorem unescaped_reverse_append
    {chars behind : List Char}
    (last : ∀ char ∈ chars.getLast?, char ≠ '\\')
    (unescapedBehind : unescaped behind = true) :
    unescaped (chars.reverse ++ behind) = true := by
  cases found : chars.getLast? with
  | none =>
      rw [List.getLast?_eq_none_iff] at found
      simpa [found] using unescapedBehind
  | some char =>
      have different := last char found
      simp [unescaped, List.head?_append, found, different]

/-- An expression opens in a value and is read through its end. -/
theorem reads_part
    {quote : Quote}
    (part : ValuePart quote)
    (head : ValueHead)
    (sameQuote : head.quote = quote.char)
    (behind : List Char)
    (unescapedBehind : unescaped behind = true) :
    Reads behind (.value head) (part.cells (State.value head).context (Text.size behind))
      (.value head) := by
  cases part with
  | plain char ordinary =>
      refine Reads.single (fun rest => ?_) rfl
      simp [step, opensExpression, sameQuote, ordinary]
  | expression written =>
      have markNotQuote : written.mark.char ≠ head.quote := by
        rw [sameQuote]
        cases written.mark <;> cases quote <;> decide
      have isMark : (written.mark.char == '$' || written.mark.char == '#') = true := by
        cases written.mark <;> rfl
      have opens (rest : List Char) :
          step (.value head) behind written.mark.char ('\x7b' :: rest) =
            (.expression (Text.size behind + 2) 0 none (some head), 1) := by
        simp [step, opensExpression, markNotQuote, isMark, unescapedBehind]
      have cut : step (.value head) behind written.mark.char [] = (.value head, 0) := by
        simp [step, opensExpression, markNotQuote]
      have opener := Reads.pair opens cut rfl rfl
      exact opener.append
        (reads_expression_inner written (Text.size behind + 2) (some head) _)

/-- No part of a value ends in a backslash. -/
theorem ValuePart.getLast?_ne
    {quote : Quote}
    (part : ValuePart quote) :
    ∀ char ∈ part.chars.getLast?, char ≠ '\\' := by
  cases part with
  | plain char ordinary =>
      simpa [ValuePart.chars] using ordinary.2.2.2
  | expression written =>
      simp [ValuePart.chars, Expression.chars, List.getLast?_cons]

/-- A value is read through its parts. -/
theorem reads_valueParts
    {quote : Quote}
    (parts : List (ValuePart quote))
    (head : ValueHead)
    (sameQuote : head.quote = quote.char)
    (behind : List Char)
    (unescapedBehind : unescaped behind = true) :
    Reads behind (.value head)
      (valueCells (State.value head).context (Text.size behind) parts) (.value head) := by
  induction parts generalizing behind with
  | nil => exact Reads.nil behind _
  | cons part rest inductionHypothesis =>
      refine (reads_part part head sameQuote behind unescapedBehind).append ?_
      have later := inductionHypothesis (part.chars.reverse ++ behind)
        (unescaped_reverse_append part.getLast?_ne unescapedBehind)
      rw [textOf_part_cells]
      simpa [Nat.add_comm] using later

/-! ## Attributes -/

/-- A character of one class differs from every character outside it. -/
theorem ne_of_class
    {isMember : Char → Bool}
    {char other : Char}
    (member : isMember char = true)
    (outside : isMember other = false) :
    char ≠ other := by
  rintro rfl
  rw [member] at outside
  exact Bool.noConfusion outside

/-- Names hold no white space. -/
theorem isMarkupSpace_of_isNameChar
    {char : Char}
    (named : isNameChar char = true) :
    Text.isMarkupSpace char = false := by
  simp only [Text.isMarkupSpace, Bool.or_eq_false_iff, beq_eq_false_iff_ne]
  refine ⟨⟨⟨⟨?_, ?_⟩, ?_⟩, ?_⟩, ?_⟩ <;> exact ne_of_class named (by decide)

/-- Between attributes everything but brackets and quotes is passed over. -/
theorem step_inTag
    (tag : TagHead)
    {char : Char}
    (notEnd : char ≠ '>')
    (notDouble : char ≠ '"')
    (notSingle : char ≠ '\'')
    (notBracket : char ≠ '<')
    (behind rest : List Char) :
    step (.inTag tag) behind char rest = (.inTag tag, 0) := by
  simp [step, notEnd, notDouble, notSingle, notBracket]

theorem step_inTag_of_class
    (tag : TagHead)
    {isMember : Char → Bool}
    {char : Char}
    (member : isMember char = true)
    (outside : ['>', '"', '\'', '<'].any isMember = false)
    (behind rest : List Char) :
    step (.inTag tag) behind char rest = (.inTag tag, 0) := by
  have excluded (other : Char) (listed : other ∈ ['>', '"', '\'', '<']) :
      isMember other = false := by
    rw [← Bool.not_eq_true]
    exact List.any_eq_false.mp outside other listed
  apply step_inTag <;> exact ne_of_class member (excluded _ (by decide))

theorem attributeBefore_eq
    (behind : List Char) :
    attributeBefore behind =
      if (behind.dropWhile Text.isMarkupSpace).head? = some '=' then
        (((behind.dropWhile Text.isMarkupSpace).tail.dropWhile Text.isMarkupSpace).takeWhile
          isNameChar).reverse
      else
        [] := by
  unfold attributeBefore
  split
  · rename_i rest split
    rw [split]
    rfl
  · rename_i notEqual
    rw [if_neg]
    intro isEqual
    obtain ⟨rest, split⟩ := List.head?_eq_some_iff.mp isEqual
    exact notEqual rest split

/-- The name in front of an equals sign and a quote, found by looking back. -/
theorem attributeBefore_lead
    (name : Word)
    (before after : Gap)
    (behind : List Char)
    (stops : behind.takeWhile isNameChar = []) :
    attributeBefore ((name.chars ++ before.chars ++ '=' :: after.chars).reverse ++ behind) =
      name.chars := by
  have skipsAfter : ∀ char ∈ after.chars.reverse, Text.isMarkupSpace char = true := by
    intro char member
    exact after.blank char (List.mem_reverse.mp member)
  have skipsBefore : ∀ char ∈ before.chars.reverse, Text.isMarkupSpace char = true := by
    intro char member
    exact before.blank char (List.mem_reverse.mp member)
  have takesName : ∀ char ∈ name.chars.reverse, isNameChar char = true := by
    intro char member
    exact name.allowed char (List.mem_reverse.mp member)
  have keepsName : (name.chars.reverse ++ behind).dropWhile Text.isMarkupSpace =
      name.chars.reverse ++ behind := by
    obtain ⟨last, others, reversed⟩ :=
      List.exists_cons_of_ne_nil (List.reverse_ne_nil_iff.mpr name.nonempty)
    have lastNamed : isNameChar last = true := takesName last (by simp [reversed])
    rw [reversed, List.cons_append,
      List.dropWhile_cons_of_neg (by simp [isMarkupSpace_of_isNameChar lastNamed])]
  have reversedLead :
      (name.chars ++ before.chars ++ '=' :: after.chars).reverse ++ behind =
        after.chars.reverse ++
          ('=' :: (before.chars.reverse ++ (name.chars.reverse ++ behind))) := by
    simp
  rw [reversedLead, attributeBefore, List.dropWhile_append_of_pos skipsAfter,
    List.dropWhile_cons_of_neg (by decide)]
  simp only
  rw [List.dropWhile_append_of_pos skipsBefore, keepsName,
    List.takeWhile_append_of_pos takesName, stops, List.append_nil, List.reverse_reverse]

/-- A quoted value is read through its closing quote, as the value of the
attribute in front of it. -/
theorem reads_quoted
    (tag : TagHead)
    {quote : Quote}
    (parts : List (ValuePart quote))
    (behind : List Char) :
    let value : CursorContext :=
      .attributeValue (String.ofList tag.name) (String.ofList (attributeBefore behind))
        (Text.size behind + 1)
    Reads behind (.inTag tag)
      ({ char := quote.char, context := value } ::
        (valueCells value (Text.size behind + 1) parts ++
          [{ char := quote.char, context := (State.inTag tag).context }]))
      (.inTag tag) := by
  intro value
  let head : ValueHead :=
    { tag
      attr := attributeBefore behind
      quote := quote.char
      start := Text.size behind + 1 }
  have opens (rest : List Char) :
      step (.inTag tag) behind quote.char rest = (.value head, 0) := by
    cases quote <;> rfl
  have closes (behind rest : List Char) :
      step (.value head) behind quote.char rest = (.inTag tag, 0) := by
    simp [step, head]
  have unescapedQuote : unescaped (quote.char :: behind) = true := by
    cases quote <;> rfl
  have quoteSize : Text.size (quote.char :: behind) = Text.size behind + 1 := by
    cases quote <;> exact Nat.add_comm 1 _
  have readsParts := reads_valueParts parts head rfl _ unescapedQuote
  rw [quoteSize] at readsParts
  refine Reads.cons opens rfl ?_
  exact readsParts.append (Reads.single (closes _) rfl)

/-- An attribute is read through its last character, and leaves the pass
between attributes. -/
theorem reads_attribute
    (attr : TagAttribute)
    (tag : TagHead)
    (behind : List Char)
    (stops : behind.takeWhile isNameChar = []) :
    Reads behind (.inTag tag)
      (attr.cells (String.ofList tag.name) (State.inTag tag).context (Text.size behind))
      (.inTag tag) := by
  have staysInName (name : Word) : ∀ char ∈ name.chars, ∀ behind rest,
      step (.inTag tag) behind char rest = (.inTag tag, 0) := by
    intro char member
    exact step_inTag_of_class tag (name.allowed char member) (by decide)
  have staysInGap (gap : Gap) : ∀ char ∈ gap.chars, ∀ behind rest,
      step (.inTag tag) behind char rest = (.inTag tag, 0) := by
    intro char member
    exact step_inTag_of_class tag (gap.blank char member) (by decide)
  cases attr with
  | bare name => exact Reads.stay (staysInName name) rfl behind
  | valued name before after quote parts =>
      have staysInLead : ∀ char ∈ name.chars ++ before.chars ++ '=' :: after.chars,
          ∀ behind rest, step (.inTag tag) behind char rest = (.inTag tag, 0) := by
        intro char member
        simp only [List.mem_append, List.mem_cons] at member
        rcases member with (inName | inGap) | rfl | inGap
        · exact staysInName name char inName
        · exact staysInGap before char inGap
        · exact fun _ _ => rfl
        · exact staysInGap after char inGap
      refine (Reads.stay staysInLead rfl behind).append ?_
      have quoted := reads_quoted tag parts
        ((name.chars ++ before.chars ++ '=' :: after.chars).reverse ++ behind)
      rw [attributeBefore_lead name before after behind stops, Text.size_append,
        Text.size_reverse, Nat.add_comm (Text.size _) (Text.size behind)] at quoted
      rw [textOf_within]
      exact quoted

/-! ## Tags -/

/-- The pass is behind the name of a tag, or still at the end of the name. -/
def Inside (tag : TagHead) (state : State) (behind : List Char) : Prop :=
  state = .inTag tag ∨
    ∃ nameStart, state = .tagName tag.start nameStart tag.closing ∧
      (behind.takeWhile isNameChar).reverse = tag.name

namespace Inside

/-- White space and slashes lead behind the name. -/
theorem step_filler
    {tag : TagHead}
    {state : State}
    {behind : List Char}
    (inside : Inside tag state behind)
    {char : Char}
    (filler : (Text.isMarkupSpace char || char == '/') = true)
    (rest : List Char) :
    step state behind char rest = (.inTag tag, 0) := by
  have outside : ['>', '"', '\'', '<'].any
      (fun other => Text.isMarkupSpace other || other == '/') = false := by decide
  rcases inside with rfl | ⟨nameStart, rfl, nameEq⟩
  · exact step_inTag_of_class tag filler outside behind rest
  · have notNamed : isNameChar char = false := by
      rw [← Bool.not_eq_true]
      intro named
      have notSlash : char ≠ '/' := ne_of_class named (by decide)
      simp [isMarkupSpace_of_isNameChar named, notSlash] at filler
    simp only [step, notNamed, filler, nameEq, if_true, Bool.false_eq_true, if_false]

/-- A closing bracket ends the tag. -/
theorem step_end
    {tag : TagHead}
    {state : State}
    {behind : List Char}
    (inside : Inside tag state behind)
    (rest : List Char) :
    step state behind '>' rest = (.text, 0) := by
  rcases inside with rfl | ⟨nameStart, rfl, _⟩ <;> rfl

/-- White space and slashes are read in front of, between and behind
attributes. -/
theorem reads_filler
    {tag : TagHead}
    {state : State}
    {behind : List Char}
    (inside : Inside tag state behind)
    (chars : List Char)
    (filler : ∀ char ∈ chars, (Text.isMarkupSpace char || char == '/') = true) :
    ∃ after, Reads behind state (within (State.inTag tag).context chars) after ∧
      Inside tag after (chars.reverse ++ behind) ∧ (chars ≠ [] → after = .inTag tag) := by
  cases chars with
  | nil => exact ⟨state, Reads.nil behind state, inside, by simp⟩
  | cons char rest =>
      refine ⟨.inTag tag, ?_, Or.inl rfl, fun _ => rfl⟩
      refine Reads.cons (inside.step_filler (filler char List.mem_cons_self)) rfl ?_
      refine Reads.stay ?_ rfl _
      intro other member behind rest
      exact step_filler (Or.inl rfl) (filler other (List.mem_cons_of_mem _ member)) rest

end Inside

/-- Attributes are read with the white space in front of them. -/
theorem reads_attributes
    (attributes : List (Space × TagAttribute))
    (tag : TagHead)
    (state : State)
    (behind : List Char)
    (inside : Inside tag state behind) :
    ∃ after, Reads behind state
        (StartTag.attributeCells (String.ofList tag.name) (State.inTag tag).context
          (Text.size behind) attributes) after ∧
      Inside tag after ((StartTag.attributeChars attributes).reverse ++ behind) := by
  induction attributes generalizing state behind with
  | nil => exact ⟨state, Reads.nil behind state, inside⟩
  | cons item rest inductionHypothesis =>
      obtain ⟨space, attr⟩ := item
      have blank : ∀ char ∈ space.chars, Text.isMarkupSpace char = true := by
        intro char member
        rcases List.mem_cons.mp member with rfl | other
        · exact space.blank
        · exact space.others.blank char other
      obtain ⟨_, readsSpace, _, entered⟩ := inside.reads_filler space.chars (by
        intro char member
        rw [blank char member, Bool.true_or])
      obtain rfl := entered (List.cons_ne_nil _ _)
      have stops : (space.chars.reverse ++ behind).takeWhile isNameChar = [] := by
        obtain ⟨last, others, reversed⟩ :=
          List.exists_cons_of_ne_nil (List.reverse_ne_nil_iff.mpr (List.cons_ne_nil
            space.first space.others.chars))
        have lastBlank := blank last (List.mem_reverse.mp (by
          rw [Space.chars, reversed]
          exact List.mem_cons_self))
        have notNamed : ¬isNameChar last = true := by
          intro named
          rw [isMarkupSpace_of_isNameChar named] at lastBlank
          exact Bool.noConfusion lastBlank
        rw [Space.chars, reversed, List.cons_append, List.takeWhile_cons_of_neg notNamed]
      have readsAttr := reads_attribute attr tag (space.chars.reverse ++ behind) stops
      obtain ⟨after, readsRest, insideAfter⟩ := inductionHypothesis (.inTag tag)
        (attr.chars.reverse ++ (space.chars.reverse ++ behind)) (Or.inl rfl)
      have attrStart : Text.size (space.chars.reverse ++ behind) =
          Text.size behind + Text.size space.chars := by
        rw [Text.size_append, Text.size_reverse, Nat.add_comm]
      have restStart : Text.size (attr.chars.reverse ++ (space.chars.reverse ++ behind)) =
          Text.size behind + Text.size space.chars + Text.size attr.chars := by
        rw [Text.size_append, Text.size_reverse, attrStart, Nat.add_comm]
      rw [attrStart] at readsAttr
      rw [restStart] at readsRest
      refine ⟨after, ?_, ?_⟩
      · rw [StartTag.attributeCells, List.append_assoc]
        exact readsSpace.trans (textOf_within _ _)
          (readsAttr.trans (textOf_attribute_cells _ _ _ _) readsRest)
      · simpa [StartTag.attributeChars] using insideAfter

theorem TagWord.isNameChar_of_mem
    (word : TagWord) :
    ∀ char ∈ word.chars, isNameChar char = true := by
  intro char member
  rcases List.mem_cons.mp member with rfl | other
  · simp [isNameChar, Char.isAlphanum, word.letter]
  · exact word.allowed char other

/-- The characters of a tag name are read in the state behind the opener. -/
theorem reads_tagWord
    (word : TagWord)
    (start nameStart : Nat)
    (closing : Bool)
    (behind : List Char) :
    Reads behind (.tagName start nameStart closing)
      (within (.tagName nameStart closing) word.chars) (.tagName start nameStart closing) := by
  refine Reads.stay ?_ rfl behind
  intro char member behind rest
  simp [step, word.isNameChar_of_mem char member]

/-- Behind a tag name the pass looks back at the whole name. -/
theorem TagWord.inside
    (word : TagWord)
    (start nameStart : Nat)
    (behind : List Char) :
    Inside { start, name := word.chars, closing := false } (.tagName start nameStart false)
      (word.chars.reverse ++ '<' :: behind) := by
  have named : ∀ char ∈ word.chars.reverse, isNameChar char = true := by
    intro char member
    exact word.isNameChar_of_mem char (List.mem_reverse.mp member)
  refine Or.inr ⟨nameStart, rfl, ?_⟩
  rw [List.takeWhile_append_of_pos named, List.takeWhile_cons_of_neg (by decide)]
  simp

/-- Behind its bracket a start tag is read through its end. -/
theorem reads_startTag_inner
    (tag : StartTag)
    (behind : List Char) :
    Reads ('<' :: behind) (.tagName (Text.size behind) (Text.size behind + 1) false)
      (tag.inner (Text.size behind)) .text := by
  have insideName := tag.name.inside (Text.size behind) (Text.size behind + 1) behind
  obtain ⟨afterAttributes, readsAttributes, insideAttributes⟩ :=
    reads_attributes tag.attributes _ _ _ insideName
  have filler : ∀ char ∈ tag.endChars, (Text.isMarkupSpace char || char == '/') = true := by
    intro char member
    rcases List.mem_append.mp member with inGap | isSlash
    · rw [tag.gap.blank char inGap, Bool.true_or]
    · have charEq : char = '/' := by
        cases slash : tag.slash <;> simp_all
      simp [charEq]
  obtain ⟨afterEnd, readsEnd, insideEnd, _⟩ :=
    insideAttributes.reads_filler tag.endChars filler
  have attributesStart : Text.size (tag.name.chars.reverse ++ '<' :: behind) =
      Text.size behind + 1 + Text.size tag.name.chars := by
    rw [Text.size_append, Text.size_reverse, Text.size_cons]
    change _ + (1 + _) = _
    omega
  rw [attributesStart] at readsAttributes
  simp only [StartTag.inner, List.append_assoc]
  refine (reads_tagWord tag.name _ _ false _).trans (textOf_within _ _) ?_
  refine readsAttributes.trans (textOf_attributeCells _ _ _ _) ?_
  refine readsEnd.trans (textOf_within _ _) ?_
  exact Reads.single insideEnd.step_end rfl

/-! ## Skipped forms -/

namespace Skipped

/-- A body that does not hold the terminator does not complete it with the
first characters of the terminator either. -/
theorem not_infix_append_closer
    (form : Skipped)
    {body : List Char}
    (free : ¬form.terminator <:+: body) :
    ¬form.terminator <:+: body ++ form.closer := by
  rintro ⟨front, back, equal⟩
  have noBracket : '>' ∉ form.closer := by cases form <;> decide
  rcases List.append_eq_append_iff.mp equal with
    ⟨middle, bodyEq, _⟩ | ⟨middle, splitEq, closerEq⟩
  · exact free ⟨front, middle, bodyEq.symm⟩
  · rcases List.eq_nil_or_concat middle with rfl | ⟨others, last, rfl⟩
    · exact free ⟨front, [], by simpa using splitEq⟩
    · have lastEq : '>' = last := by
        have lasts := congrArg List.getLast? splitEq
        simpa [terminator, ← List.append_assoc] using lasts
      apply noBracket
      rw [closerEq, lastEq]
      simp

/-- The pass stays in a skipped form as long as its terminator is not there. -/
theorem run_of_not_infix
    {terminator : List Char}
    (chars behind : List Char)
    (free : ¬terminator <:+: chars) :
    run (.ignored terminator) 0 behind chars = .ignored terminator := by
  induction chars generalizing behind with
  | nil => exact run_nil _ _ _
  | cons char rest inductionHypothesis =>
      have notHere : terminator.isPrefixOf (char :: rest) = false := by
        rw [← Bool.not_eq_true, List.isPrefixOf_iff_prefix]
        intro here
        exact free here.isInfix
      have notLater : ¬terminator <:+: rest := by
        intro later
        exact free (later.trans (List.suffix_cons char rest).isInfix)
      rw [run_zero_cons]
      simp only [step, notHere, Bool.false_eq_true, if_false]
      exact inductionHypothesis _ notLater

/-- The pass leaves a skipped form behind the terminator. -/
theorem run_through
    (form : Skipped)
    (body behind tail : List Char)
    (free : ¬form.terminator <:+: body ++ form.closer) :
    run (.ignored form.terminator) 0 behind (body ++ form.terminator ++ tail) =
      run .text 0 ((body ++ form.terminator).reverse ++ behind) tail := by
  induction body generalizing behind with
  | nil => cases form <;> simp [step, terminator, closer]
  | cons char rest inductionHypothesis =>
      have notHere :
          form.terminator.isPrefixOf (char :: (rest ++ form.terminator ++ tail)) = false := by
        rw [← Bool.not_eq_true, List.isPrefixOf_iff_prefix]
        intro here
        have longer : char :: rest ++ form.closer <+:
            char :: (rest ++ form.terminator ++ tail) := by
          refine ⟨'>' :: tail, ?_⟩
          simp [terminator]
        have fits : form.terminator.length ≤ (char :: rest ++ form.closer).length := by
          simp [terminator]
        exact free (List.prefix_of_prefix_length_le here longer fits).isInfix
      have notLater : ¬form.terminator <:+: rest ++ form.closer := by
        intro later
        exact free (later.trans (List.suffix_cons char _).isInfix)
      rw [List.cons_append, List.cons_append, run_zero_cons]
      simp only [step, notHere, Bool.false_eq_true, if_false]
      rw [inductionHypothesis _ notLater]
      simp

end Skipped

/-- Behind its opener a skipped form is read through its terminator. -/
theorem reads_skipped
    (form : Skipped)
    (body behind : List Char)
    (free : ¬form.terminator <:+: body) :
    Reads behind (.ignored form.terminator)
      (within .ignored (body ++ form.closer) ++ [{ char := '>', context := .text }]) .text := by
  have freeCloser := form.not_infix_append_closer free
  have text : textOf (within .ignored (body ++ form.closer) ++
      [{ char := '>', context := .text }]) = body ++ form.terminator := by
    simp [Skipped.terminator]
  exact
    { passes := by
        intro tail
        rw [text]
        exact form.run_through body behind tail freeCloser
      agrees := by
        intro front cell back equal
        rcases List.eq_nil_or_concat back with rfl | ⟨others, last, rfl⟩
        · obtain ⟨frontEq, cellEq⟩ := List.append_inj' equal rfl
          have through := form.run_through body behind [] freeCloser
          rw [List.cons.inj cellEq |>.1.symm, ← frontEq, textOf_within]
          simp only [List.append_nil, Skipped.terminator, ← List.append_assoc] at through ⊢
          rw [through, run_nil]
          rfl
        · have shorter : within .ignored (body ++ form.closer) = front ++ cell :: others := by
            have regrouped : within .ignored (body ++ form.closer) ++
                [{ char := '>', context := .text }] = (front ++ cell :: others) ++ [last] := by
              rw [equal]
              simp
            exact (List.append_inj' regrouped rfl).1
          have ignored : cell.context = .ignored := by
            have member : cell ∈ within .ignored (body ++ form.closer) := by
              rw [shorter]
              simp
            obtain ⟨_, _, rfl⟩ := List.mem_map.mp member
            rfl
          have part : textOf front ++ [cell.char] <+: body ++ form.closer := by
            have texts := congrArg textOf shorter
            rw [textOf_within] at texts
            exact ⟨textOf others, by rw [texts]; simp⟩
          rw [ignored, Skipped.run_of_not_infix _ behind fun here =>
            freeCloser (here.trans part.isInfix)]
          rfl }

end Grammar
end Markup
end JspCompletion
