import JspCompletion.Proofs.Markup.Classification
import JspCompletion.Proofs.Text.Bytes

/-!
# The pass as a loop over bytes

Cursors are classified by a loop that goes through the bytes in front of the
cursor with an index.  A turn of the loop reads a form of one, two or four bytes,
or leaves the index where it is and reads the same byte again as template text;
in a string literal it may step beyond the last byte.  Tags are noted by the
positions of their names, which are cut out of the text at the end.

This module describes the loop, and what it means that it agrees with the pass
over characters, with everything noted where it was opened.  Bytes of characters
that have several are read over by both.
-/

namespace JspCompletion
namespace Markup
namespace Loop

open Cursor Grammar

/-! ## The loop -/

/-- A tag, by the positions of its bracket and its name. -/
structure TagSpan where
  start : Nat
  nameStart : Nat
  nameEnd : Nat
  closing : Bool
deriving DecidableEq, Repr

/-- An attribute value in a tag. -/
structure ValueSpan where
  tag : TagSpan
  attr : List Char
  quote : Char
  start : Nat
deriving DecidableEq, Repr

/-- What the loop is in the middle of. -/
inductive State
  | text
  | tagName (tag : TagSpan)
  | inTag (tag : TagSpan)
  | value (head : ValueSpan)
  | expression (start depth : Nat) (literal : Option Char) (within : Option ValueSpan)
  | ignored (terminator : List Char)
deriving DecidableEq, Repr

/-- A turn in template text: the next state and the next index, where `behind` are
the octets in front of the index in reverse and `rest` those behind it. -/
def turnText (index : Nat) (behind : List Char) (octet : Char) (rest : List Char) : State × Nat :=
  if ahead "<%--" octet rest then
    (.ignored "--%>".toList, index + 4)
  else if ahead "<%" octet rest then
    (.ignored "%>".toList, index + 2)
  else if ahead "<!--" octet rest then
    (.ignored "-->".toList, index + 4)
  else if ahead "</" octet rest then
    (.tagName
      { start := index, nameStart := index + 2, nameEnd := index + 2, closing := true }, index + 2)
  else if octet == '<' && rest.head?.all Char.isAlpha then
    (.tagName
      { start := index, nameStart := index + 1, nameEnd := index + 1, closing := false }, index + 1)
  else if opensExpression behind octet rest then
    (.expression (index + 2) 0 none none, index + 2)
  else
    (.text, index + 1)

/-- A turn inside an expression. -/
def turnExpression
    (start depth : Nat)
    (literal : Option Char)
    (within : Option ValueSpan)
    (index : Nat)
    (octet : Char) : State × Nat :=
  match literal with
  | some quote =>
      if octet == '\\' then
        (.expression start depth literal within, index + 2)
      else if octet == quote then
        (.expression start depth none within, index + 1)
      else
        (.expression start depth literal within, index + 1)
  | none =>
      if octet == '\'' || octet == '"' then
        (.expression start depth (some octet) within, index + 1)
      else if octet == '\x7b' then
        (.expression start (depth + 1) none within, index + 1)
      else if octet == '\x7d' then
        match depth, within with
        | depth + 1, _ => (.expression start depth none within, index + 1)
        | 0, some head => (.value head, index + 1)
        | 0, none => (.text, index + 1)
      else
        (.expression start depth none within, index + 1)

/-- A turn of the loop at an index with an octet. -/
def turnAt
    (index : Nat)
    (behind : List Char)
    (octet : Char)
    (rest : List Char)
    (state : State) : State × Nat :=
  match state with
  | .text => turnText index behind octet rest
  | .tagName tag =>
      if isNameChar octet then
        (.tagName { tag with nameEnd := index + 1 }, index + 1)
      else if Text.isMarkupSpace octet || octet == '/' then
        (.inTag tag, index + 1)
      else if octet == '>' then
        (.text, index + 1)
      else
        (.text, index)
  | .inTag tag =>
      if octet == '>' then
        (.text, index + 1)
      else if octet == '"' || octet == '\'' then
        (.value { tag, attr := attributeBefore behind, quote := octet, start := index + 1 },
          index + 1)
      else if octet == '<' then
        (.text, index)
      else
        (.inTag tag, index + 1)
  | .value head =>
      if octet == head.quote then
        (.inTag head.tag, index + 1)
      else if opensExpression behind octet rest then
        (.expression (index + 2) 0 none (some head), index + 2)
      else
        (.value head, index + 1)
  | .expression start depth literal within =>
      turnExpression start depth literal within index octet
  | .ignored terminator =>
      if terminator.isPrefixOf (octet :: rest) then
        (.text, index + terminator.length)
      else
        (.ignored terminator, index + 1)

/-- A turn of the loop over some octets. -/
def turn (octets : List Char) (index : Nat) (octet : Char) (state : State) : State × Nat :=
  turnAt index (octets.take index).reverse octet (octets.drop (index + 1)) state

/-- From a state at an index the loop comes to an end in a state. -/
inductive Ends (octets : List Char) : State → Nat → State → Prop
  | stop
      {state : State}
      {index : Nat}
      (past : octets.length ≤ index) :
      Ends octets state index state
  | next
      {state final : State}
      {index : Nat}
      {octet : Char}
      (here : octets[index]? = some octet)
      (ends : Ends octets (turn octets index octet state).1 (turn octets index octet state).2 final) :
      Ends octets state index final

/-- What the cursor is in when the loop stops in a state, unless the name of a tag
cannot be cut out of the text. -/
def State.context? (chars : List Char) : State → Option CursorContext
  | text => some .text
  | ignored _ => some .ignored
  | tagName tag => some (.tagName tag.nameStart tag.closing)
  | inTag tag =>
      if tag.closing then
        some .text
      else
        (Text.slice? chars tag.nameStart tag.nameEnd).map fun name =>
          .attributeName tag.start (String.ofList name)
  | value head =>
      (Text.slice? chars head.tag.nameStart head.tag.nameEnd).map fun name =>
        .attributeValue (String.ofList name) (String.ofList head.attr) head.start
  | expression start _ literal _ => some (.expression start literal.isSome)

/-- The loop ends in one way only. -/
theorem Ends.unique
    {octets : List Char}
    {state left right : State}
    {index : Nat}
    (ends : Ends octets state index left)
    (otherEnds : Ends octets state index right) :
    left = right := by
  induction ends with
  | stop past =>
      cases otherEnds with
      | stop => rfl
      | next here =>
          rw [List.getElem?_eq_none past] at here
          cases here
  | next here ends inductionHypothesis =>
      cases otherEnds with
      | stop past =>
          rw [List.getElem?_eq_none past] at here
          cases here
      | next otherHere otherEnds =>
          rw [here, Option.some.injEq] at otherHere
          rw [← otherHere] at otherEnds
          exact inductionHypothesis otherEnds

/-! ## What the loop has noted -/

/-- What opens the name of a tag. -/
def opener (closing : Bool) : List Char :=
  if closing then "</".toList else "<".toList

/-- A tag and its positions in the text read so far. -/
structure TagNoted (seen : List Char) (tag : TagHead) (span : TagSpan) : Prop where
  start : span.start = tag.start
  closing : span.closing = tag.closing
  opened : Text.slice? seen span.start span.nameStart = some (opener span.closing)
  name : Text.slice? seen span.nameStart span.nameEnd = some tag.name

def IsQuote (char : Char) : Prop :=
  char = '"' ∨ char = '\''

/-- A value and its positions in the text read so far. -/
structure ValueNoted (seen : List Char) (head : ValueHead) (span : ValueSpan) : Prop where
  tag : TagNoted seen head.tag span.tag
  attr : span.attr = head.attr
  quote : span.quote = head.quote
  start : span.start = head.start
  isQuote : IsQuote head.quote
  opened : ∃ position, Text.slice? seen position head.start = some [head.quote]

/-- An expression begins at a position of the text read so far. -/
def ExpressionNoted (seen : List Char) (start : Nat) : Prop :=
  ∃ position mark, (mark = '$' ∨ mark = '#') ∧
    Text.slice? seen position start = some [mark, '\x7b']

/-- The pass over characters and the loop are in the same state, with everything
where it was opened. -/
inductive Agrees (seen : List Char) : Cursor.State → State → Prop
  | text : Agrees seen .text .text
  | tagName
      {span : TagSpan}
      {name : List Char}
      (opened : Text.slice? seen span.start span.nameStart = some (opener span.closing))
      (named : Text.slice? seen span.nameStart span.nameEnd = some name)
      (isName : ∀ char ∈ name, isNameChar char = true)
      (atEnd : span.nameEnd = Text.size seen) :
      Agrees seen (.tagName span.start span.nameStart span.closing) (.tagName span)
  | inTag
      {tag : TagHead}
      {span : TagSpan}
      (noted : TagNoted seen tag span) :
      Agrees seen (.inTag tag) (.inTag span)
  | value
      {head : ValueHead}
      {span : ValueSpan}
      (noted : ValueNoted seen head span) :
      Agrees seen (.value head) (.value span)
  | expression
      {start depth : Nat}
      {literal : Option Char}
      {within : Option ValueHead}
      {span : Option ValueSpan}
      (noted : ExpressionNoted seen start)
      (isQuote : ∀ quote ∈ literal, IsQuote quote)
      (around : Option.Rel (ValueNoted seen) within span) :
      Agrees seen (.expression start depth literal within) (.expression start depth literal span)
  | ignored
      {terminator : List Char}
      (nonempty : terminator ≠ [])
      (low : ∀ char ∈ terminator, char.toNat < 128) :
      Agrees seen (.ignored terminator) (.ignored terminator)

section Growing

variable {seen : List Char} (more : List Char)

theorem TagNoted.append
    {tag : TagHead}
    {span : TagSpan}
    (noted : TagNoted seen tag span) :
    TagNoted (seen ++ more) tag span :=
  ⟨noted.start, noted.closing, Text.slice?_append noted.opened more,
    Text.slice?_append noted.name more⟩

theorem ValueNoted.append
    {head : ValueHead}
    {span : ValueSpan}
    (noted : ValueNoted seen head span) :
    ValueNoted (seen ++ more) head span := by
  obtain ⟨position, opened⟩ := noted.opened
  exact ⟨noted.tag.append more, noted.attr, noted.quote, noted.start, noted.isQuote, position,
    Text.slice?_append opened more⟩

theorem ExpressionNoted.append
    {start : Nat}
    (noted : ExpressionNoted seen start) :
    ExpressionNoted (seen ++ more) start := by
  obtain ⟨position, mark, isMark, opened⟩ := noted
  exact ⟨position, mark, isMark, Text.slice?_append opened more⟩

theorem rel_append
    {within : Option ValueHead}
    {span : Option ValueSpan}
    (around : Option.Rel (ValueNoted seen) within span) :
    Option.Rel (ValueNoted (seen ++ more)) within span := by
  cases around with
  | some noted => exact .some (noted.append more)
  | none => exact .none

/-- A byte of a character that has several leaves the state as it is.  Only the
name of a tag is ended by one. -/
def State.IsCalm : State → Prop
  | .tagName _ => False
  | _ => True

theorem Agrees.append
    {state : Cursor.State}
    {loopState : State}
    (agrees : Agrees seen state loopState)
    (calm : loopState.IsCalm) :
    Agrees (seen ++ more) state loopState := by
  cases agrees with
  | text => exact .text
  | tagName => exact calm.elim
  | inTag noted => exact .inTag (noted.append more)
  | value noted => exact .value (noted.append more)
  | expression noted isQuote around =>
      exact .expression (noted.append more) isQuote (rel_append more around)
  | ignored nonempty low => exact .ignored nonempty low

end Growing

/-! ## High bytes -/

section High

variable {char : Char} (high : 128 ≤ char.toNat)

include high

theorem isAlpha_of_high : char.isAlpha = false := by
  have notAlphanum := Text.isAlphanum_of_high high
  rw [Char.isAlphanum, Bool.or_eq_false_iff] at notAlphanum
  exact notAlphanum.1

theorem isNameChar_of_high : isNameChar char = false := by
  simp [isNameChar, Text.isAlphanum_of_high high, Text.ne_of_high high]

theorem isMarkupSpace_of_high : Text.isMarkupSpace char = false := by
  simp [Text.isMarkupSpace, Text.ne_of_high high]

theorem opensExpression_of_high (behind rest : List Char) :
    opensExpression behind char rest = false := by
  simp [opensExpression, Text.ne_of_high high]

theorem stepText_of_high (behind rest : List Char) : stepText behind char rest = (.text, 0) := by
  have notBracket : char ≠ '<' := Text.ne_of_high high (by decide)
  rw [stepText_of_ne notBracket, opensExpression_of_high high, if_neg Bool.false_ne_true]

theorem turnText_of_high (index : Nat) (behind rest : List Char) :
    turnText index behind char rest = (.text, index + 1) := by
  have notBracket : char ≠ '<' := Text.ne_of_high high (by decide)
  simp [turnText, ahead, notBracket, notBracket.symm, opensExpression_of_high high]

theorem isPrefixOf_of_high
    {terminator : List Char}
    (nonempty : terminator ≠ [])
    (low : ∀ char ∈ terminator, char.toNat < 128)
    (rest : List Char) :
    terminator.isPrefixOf (char :: rest) = false := by
  cases terminator with
  | nil => exact absurd rfl nonempty
  | cons first others =>
      have differs := Text.beq_of_high high first (low first List.mem_cons_self)
      rw [List.isPrefixOf_cons_cons, Bool.beq_comm, differs, Bool.false_and]

end High

theorem IsQuote.lt
    {char : Char}
    (isQuote : IsQuote char) :
    char.toNat < 128 := by
  rcases isQuote with rfl | rfl <;> decide

theorem isQuote_none : ∀ quote ∈ (none : Option Char), IsQuote quote := by
  simp

/-! ## Going through the loop -/

/-- From one state and index the loop gets to another, wherever it ends. -/
def Leads (octets : List Char) (state : State) (index : Nat) (later : State) (laterIndex : Nat) :
    Prop :=
  ∀ final, Ends octets later laterIndex final → Ends octets state index final

theorem Leads.trans
    {octets : List Char}
    {first second third : State}
    {index between last : Nat}
    (leads : Leads octets first index second between)
    (leadsOn : Leads octets second between third last) :
    Leads octets first index third last :=
  fun final ends => leads final (leadsOn final ends)

theorem leads_turn
    {octets : List Char}
    {index : Nat}
    {octet : Char}
    (here : octets[index]? = some octet)
    (state : State) :
    Leads octets state index (turn octets index octet state).1 (turn octets index octet state).2 :=
  fun _ ends => .next here ends

section HighOctets

variable {seen : List Char} {state : Cursor.State} {loopState : State}

/-- A high octet is read over. -/
theorem Agrees.turn_high
    (agrees : Agrees seen state loopState)
    (calm : loopState.IsCalm)
    {octet : Char}
    (high : 128 ≤ octet.toNat)
    (octets : List Char)
    (index : Nat) :
    turn octets index octet loopState = (loopState, index + 1) := by
  cases agrees with
  | text => exact turnText_of_high high ..
  | tagName => exact calm.elim
  | inTag noted => simp [turn, turnAt, Text.ne_of_high high]
  | value noted =>
      have notQuote : ¬octet = _ := Text.ne_of_high high noted.isQuote.lt
      simp [turn, turnAt, noted.quote, notQuote, opensExpression_of_high high]
  | @expression start depth literal within span noted isQuote around =>
      cases literal with
      | none => simp [turn, turnAt, turnExpression, Text.ne_of_high high]
      | some quote =>
          have notQuote : ¬octet = quote := Text.ne_of_high high (isQuote quote rfl).lt
          simp [turn, turnAt, turnExpression, Text.ne_of_high high, notQuote]
  | ignored nonempty low => simp [turn, turnAt, isPrefixOf_of_high high nonempty low]

/-- So is a high character. -/
theorem Agrees.step_high
    (agrees : Agrees seen state loopState)
    (calm : loopState.IsCalm)
    {char : Char}
    (high : 128 ≤ char.toNat)
    (behind rest : List Char) :
    step state behind char rest = (state, 0) := by
  cases agrees with
  | text => exact stepText_of_high high ..
  | tagName => exact calm.elim
  | inTag noted => simp [step, Text.ne_of_high high]
  | value noted =>
      have notQuote : ¬char = _ := Text.ne_of_high high noted.isQuote.lt
      simp [step, notQuote, opensExpression_of_high high]
  | @expression start depth literal within span noted isQuote around =>
      cases literal with
      | none => simp [step, stepExpression, Text.ne_of_high high]
      | some quote =>
          have notQuote : ¬char = quote := Text.ne_of_high high (isQuote quote rfl).lt
          simp [step, stepExpression, Text.ne_of_high high, notQuote]
  | ignored nonempty low => simp [step, isPrefixOf_of_high high nonempty low]

/-- High octets are read over one by one. -/
theorem Agrees.leads_high
    (agrees : Agrees seen state loopState)
    (calm : loopState.IsCalm)
    (front part back : List Char)
    (high : ∀ octet ∈ part, 128 ≤ octet.toNat) :
    Leads (front ++ part ++ back) loopState front.length loopState (front.length + part.length) := by
  induction part generalizing front with
  | nil => exact fun _ => id
  | cons octet part inductionHypothesis =>
      have here : (front ++ octet :: part ++ back)[front.length]? = some octet := by simp
      have turned := agrees.turn_high calm (high octet List.mem_cons_self)
        (front ++ octet :: part ++ back) front.length
      have first := leads_turn here loopState
      rw [turned] at first
      have others := inductionHypothesis (front ++ [octet]) fun other member =>
        high other (List.mem_cons_of_mem _ member)
      simp only [List.length_append, List.length_cons, List.length_nil, List.append_assoc,
        List.cons_append, List.nil_append] at first others ⊢
      refine first.trans ?_
      convert others using 1
      omega

/-- Behind the first octet of a character the others are read over. -/
theorem Agrees.leads_tail
    (agrees : Agrees seen state loopState)
    (calm : loopState.IsCalm)
    (front back : List Char)
    {part : List Char}
    (nonempty : part ≠ [])
    (high : ∀ octet ∈ part.tail, 128 ≤ octet.toNat) :
    Leads (front ++ part ++ back) loopState (front.length + 1) loopState
      (front.length + part.length) := by
  obtain ⟨first, others, rfl⟩ := List.exists_cons_of_ne_nil nonempty
  have leads := agrees.leads_high calm (front ++ [first]) others back high
  simpa [Nat.add_assoc, Nat.add_comm 1] using leads

/-- A high character, of which the loop may not see all octets, is read over, and
the loop is calm behind it. -/
theorem Agrees.exists_high
    (agrees : Agrees seen state loopState)
    {char : Char}
    (highChar : 128 ≤ char.toNat)
    (behind rest front back : List Char)
    {part : List Char}
    (nonempty : part ≠ [])
    (high : ∀ octet ∈ part, 128 ≤ octet.toNat) :
    ∃ later, later.IsCalm ∧ Agrees seen (step state behind char rest).1 later ∧
      (step state behind char rest).2 = 0 ∧
      Leads (front ++ part ++ back) loopState front.length later (front.length + part.length) := by
  by_cases calm : loopState.IsCalm
  · rw [agrees.step_high calm highChar]
    exact ⟨loopState, calm, agrees, rfl, agrees.leads_high calm front part back high⟩
  · cases agrees with
    | @tagName span name opened named isName atEnd =>
        -- The first octet ends the name and is then read again.
        obtain ⟨octet, others, rfl⟩ := List.exists_cons_of_ne_nil nonempty
        have highOctet := high octet List.mem_cons_self
        have here : (front ++ octet :: others ++ back)[front.length]? = some octet := by simp
        have stepped : step (.tagName span.start span.nameStart span.closing) behind char rest =
            (.text, 0) := by
          simp [step, isNameChar_of_high highChar, isMarkupSpace_of_high highChar,
            Text.ne_of_high highChar, stepText_of_high highChar]
        have turned (octets : List Char) (index : Nat) :
            turn octets index octet (.tagName span) = (.text, index) := by
          simp [turn, turnAt, isNameChar_of_high highOctet, isMarkupSpace_of_high highOctet,
            Text.ne_of_high highOctet]
        have first := leads_turn here (.tagName span)
        rw [turned] at first
        rw [stepped]
        have agreesText : Agrees seen Cursor.State.text State.text := .text
        exact ⟨.text, trivial, .text, rfl,
          first.trans (agreesText.leads_high trivial front _ back high)⟩
    | _ => exact absurd trivial calm

end HighOctets

end Loop
end Markup
end JspCompletion
