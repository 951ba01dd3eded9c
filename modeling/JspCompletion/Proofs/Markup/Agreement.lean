import JspCompletion.Proofs.Markup.Loop

/-!
# The loop over bytes and the pass over characters

The loop always comes to an end, also where the offset lies within a character,
and its outcome is the classification of the pass over characters: a step of the
pass is one turn of the loop, or two where a byte is read again.

With the outcome comes where everything was opened.  So every position that a
classification gives lies behind the delimiter that it says is there, and the
name of a tag is cut out between borders of characters.
-/

namespace JspCompletion
namespace Markup
namespace Loop

open Cursor Grammar

/-! ## Low characters -/

section Low

variable {behind rest tail : List Char} {char : Char} (encodes : Text.Encodes rest tail)

/-- What a step leaves to be passed over is low, or it is the character behind a
backslash in a literal, of which the loop passes over the first octet only. -/
def Pending (loopState : State) (skip : Nat) (rest : List Char) : Prop :=
  (skip ≤ rest.length ∧ ∀ char ∈ rest.take skip, char.toNat < 128) ∨
    (skip = 1 ∧ loopState.IsCalm)

theorem pending_zero (loopState : State) (rest : List Char) : Pending loopState 0 rest :=
  .inl ⟨Nat.zero_le _, by simp⟩

include encodes

theorem ahead_eq
    {word : String}
    (low : char.toNat < 128)
    (lowWord : ∀ char ∈ word.toList, char.toNat < 128) :
    ahead word char tail = ahead word char rest := by
  have encodesAll := Text.Encodes.whole char encodes
  rw [Text.octets_of_lt low] at encodesAll
  exact encodesAll.isPrefixOf lowWord

theorem all_isAlpha_eq : tail.head?.all Char.isAlpha = rest.head?.all Char.isAlpha := by
  have same := encodes.head?_map Char.isAlpha fun _ => isAlpha_of_high
  cases tail with
  | nil =>
      cases rest with
      | nil => rfl
      | cons => simp at same
  | cons =>
      cases rest with
      | nil => simp at same
      | cons => simpa using same

theorem opensExpression_eq :
    opensExpression (Text.octetsBehind behind) char tail = opensExpression behind char rest := by
  have sameNext : (tail.head? == some '\x7b') = (rest.head? == some '\x7b') :=
    encodes.head?_beq (by decide)
  have sameBehind :
      ((Text.octetsBehind behind).head? == some '\\') = (behind.head? == some '\\') :=
    Text.head?_octetsBehind_beq (by decide) behind
  simp only [opensExpression, unescaped, bne, sameNext, sameBehind]

omit encodes in
theorem attributeBefore_octetsBehind (behind : List Char) :
    attributeBefore (Text.octetsBehind behind) = attributeBefore behind := by
  have noSpace : ∀ char : Char, 128 ≤ char.toNat → Text.isMarkupSpace char = false :=
    fun _ => isMarkupSpace_of_high
  have noName : ∀ char : Char, 128 ≤ char.toNat → isNameChar char = false :=
    fun _ => isNameChar_of_high
  rw [attributeBefore_eq, attributeBefore_eq, Text.dropWhile_octetsBehind noSpace]
  cases behind.dropWhile Text.isMarkupSpace with
  | nil => rfl
  | cons first front =>
      have sameHead : ((Text.octetsBehind (first :: front)).head? == some '=') =
          ((first :: front).head? == some '=') :=
        Text.head?_octetsBehind_beq (by decide) _
      by_cases isEqual : first = '='
      · subst isEqual
        rw [Text.octetsBehind_cons_of_lt (by decide)]
        simp only [List.head?_cons, List.tail_cons]
        rw [Text.dropWhile_octetsBehind noSpace, Text.takeWhile_octetsBehind noName]
      · have notHead : (first :: front).head? ≠ some '=' := by simpa using isEqual
        have notOctet : (Text.octetsBehind (first :: front)).head? ≠ some '=' := by
          rw [← beq_eq_false_iff_ne, sameHead, beq_eq_false_iff_ne]
          exact notHead
        rw [if_neg notHead, if_neg notOctet]

end Low

section Steps

variable {behind rest tail : List Char} {char : Char}

/-- What a turn of the loop leads to agrees with a step of the pass, with what the
step passes over taken as read. -/
structure Follows
    (behind : List Char)
    (char : Char)
    (rest : List Char)
    (stepped : Cursor.State × Nat)
    (turned : State × Nat) : Prop where
  index : turned.2 = Text.size behind + 1 + stepped.2
  agrees : Agrees (behind.reverse ++ char :: rest.take stepped.2) stepped.1 turned.1
  pending : Pending turned.1 stepped.2 rest

/-- What has just been read ends where the text read so far does. -/
theorem slice?_read
    (behind word : List Char) :
    Text.slice? (behind.reverse ++ word) (Text.size behind) (Text.size behind + Text.size word) =
      some word := by
  have whole := Text.slice?_size behind.reverse word
  rwa [Text.size_append, Text.size_reverse] at whole

theorem slice?_end
    (text : List Char) :
    Text.slice? text (Text.size text) (Text.size text) = some [] := by
  have whole := Text.slice?_size text []
  rwa [List.append_nil] at whole

theorem exists_of_ahead
    {first : Char}
    {others : List Char}
    {word : String}
    (spelled : word.toList = first :: others)
    (found : ahead word char rest = true) :
    char = first ∧ ∃ more, rest = others ++ more := by
  rw [ahead, spelled, List.isPrefixOf_iff_prefix] at found
  obtain ⟨more, split⟩ := found
  obtain ⟨sameFirst, sameRest⟩ := List.cons.inj split
  exact ⟨sameFirst.symm, more, sameRest.symm⟩

theorem exists_of_opensExpression
    (opens : opensExpression behind char rest = true) :
    (char = '$' ∨ char = '#') ∧ ∃ more, rest = '\x7b' :: more := by
  simp only [opensExpression, Bool.and_eq_true, Bool.or_eq_true, beq_iff_eq] at opens
  exact ⟨opens.1.1, List.head?_eq_some_iff.mp opens.1.2⟩

theorem expressionNoted_read
    (opens : opensExpression behind char rest = true) :
    ExpressionNoted (behind.reverse ++ char :: rest.take 1) (Text.size behind + 2) := by
  obtain ⟨isMark, more, rfl⟩ := exists_of_opensExpression opens
  refine ⟨Text.size behind, char, isMark, ?_⟩
  have read := slice?_read behind [char, '\x7b']
  have size : Text.size [char, '\x7b'] = 2 := by
    rcases isMark with rfl | rfl <;> rfl
  rwa [size] at read

theorem pending_of_opensExpression
    (opens : opensExpression behind char rest = true)
    (loopState : State) :
    Pending loopState 1 rest := by
  obtain ⟨-, more, rfl⟩ := exists_of_opensExpression opens
  exact .inl ⟨by simp, by simp⟩

/-- A form that is skipped, behind its opener. -/
theorem follows_ignored
    {word : String}
    {first : Char}
    {others : List Char}
    (terminator : List Char)
    (spelled : word.toList = first :: others)
    (found : ahead word char rest = true)
    (lowOthers : ∀ char ∈ others, char.toNat < 128)
    (nonempty : terminator ≠ [])
    (low : ∀ char ∈ terminator, char.toNat < 128) :
    Follows behind char rest (.ignored terminator, others.length)
      (.ignored terminator, Text.size behind + 1 + others.length) := by
  obtain ⟨-, more, rfl⟩ := exists_of_ahead spelled found
  refine ⟨rfl, .ignored nonempty low, .inl ⟨by simp, ?_⟩⟩
  rw [List.take_left]
  exact lowOthers

theorem follows_tagName
    {closing : Bool}
    {others more : List Char}
    (opened : opener closing = char :: others)
    (lowOthers : ∀ char ∈ others, char.toNat < 128)
    (size : Text.size (opener closing) = others.length + 1)
    (restEq : rest = others ++ more) :
    Follows behind char rest
      (.tagName (Text.size behind) (Text.size behind + 1 + others.length) closing, others.length)
      (.tagName
        { start := Text.size behind
          nameStart := Text.size behind + 1 + others.length
          nameEnd := Text.size behind + 1 + others.length
          closing }, Text.size behind + 1 + others.length) := by
  subst restEq
  have atEnd : Text.size behind + 1 + others.length =
      Text.size (behind.reverse ++ opener closing) := by
    rw [Text.size_append, Text.size_reverse, size]
    omega
  have openedHere : Text.slice? (behind.reverse ++ opener closing) (Text.size behind)
      (Text.size behind + 1 + others.length) = some (opener closing) := by
    have read := slice?_read behind (opener closing)
    rwa [size, Nat.add_comm others.length, ← Nat.add_assoc] at read
  have unnamed : Text.slice? (behind.reverse ++ opener closing)
      (Text.size behind + 1 + others.length) (Text.size behind + 1 + others.length) = some [] := by
    rw [atEnd]
    exact slice?_end _
  refine ⟨rfl, ?_, .inl ⟨by simp, ?_⟩⟩
  · rw [List.take_left, ← opened]
    let span : TagSpan :=
      { start := Text.size behind
        nameStart := Text.size behind + 1 + others.length
        nameEnd := Text.size behind + 1 + others.length
        closing }
    have agrees : Agrees (behind.reverse ++ opener closing)
        (.tagName span.start span.nameStart span.closing) (.tagName span) :=
      .tagName openedHere unnamed (List.forall_mem_nil _) atEnd
    exact agrees
  · rw [List.take_left]
    exact lowOthers

/-- A turn in template text goes as a step in it. -/
theorem follows_turnText
    (encodes : Text.Encodes rest tail)
    (low : char.toNat < 128) :
    Follows behind char rest (stepText behind char rest)
      (turnText (Text.size behind) (Text.octetsBehind behind) char tail) := by
  unfold stepText turnText
  have sameAhead (word : String) (lowWord : (word.toList.all fun char => char.toNat < 128) = true) :
      ahead word char tail = ahead word char rest :=
    ahead_eq encodes low (Text.lt_of_all lowWord)
  rw [sameAhead _ rfl, sameAhead _ rfl, sameAhead _ rfl, sameAhead _ rfl, all_isAlpha_eq encodes,
    opensExpression_eq encodes]
  split
  · rename_i found
    exact follows_ignored "--%>".toList rfl found (Text.lt_of_all rfl) (by decide)
      (Text.lt_of_all rfl)
  split
  · rename_i found
    exact follows_ignored "%>".toList rfl found (Text.lt_of_all rfl) (by decide)
      (Text.lt_of_all rfl)
  split
  · rename_i found
    exact follows_ignored "-->".toList rfl found (Text.lt_of_all rfl) (by decide)
      (Text.lt_of_all rfl)
  split
  · rename_i found
    obtain ⟨rfl, more, restEq⟩ := exists_of_ahead rfl found
    exact follows_tagName rfl (Text.lt_of_all rfl) rfl restEq
  split
  · rename_i isTag
    obtain rfl : char = '<' := by simpa using (Bool.and_eq_true_iff.mp isTag).1
    exact follows_tagName rfl (Text.lt_of_all rfl) rfl (List.nil_append rest).symm
  split
  · rename_i opens
    exact ⟨rfl, .expression (expressionNoted_read opens) isQuote_none .none,
      pending_of_opensExpression opens _⟩
  · exact ⟨rfl, .text, pending_zero _ rest⟩

/-- The name of a tag is found again by reading back. -/
theorem takeWhile_of_named
    {name : List Char}
    {start nameStart : Nat}
    {closing : Bool}
    (opened : Text.slice? behind.reverse start nameStart = some (opener closing))
    (named : Text.slice? behind.reverse nameStart (Text.size behind) = some name)
    (isName : ∀ char ∈ name, isNameChar char = true) :
    (behind.takeWhile isNameChar).reverse = name := by
  have whole := Text.slice?_trans opened named
  obtain ⟨front, back, split, startEq, stopEq⟩ := (Text.slice?_eq_some_iff ..).mp whole
  have nothing : back = [] := by
    apply Text.eq_nil_of_size_eq_zero
    have sizes := congrArg Text.size split
    rw [Text.size_reverse, Text.size_append, Text.size_append] at sizes
    omega
  have behindEq : behind = name.reverse ++ ((opener closing).reverse ++ front.reverse) := by
    have reversed := congrArg List.reverse split
    rw [nothing] at reversed
    simpa using reversed
  have stops : ((opener closing).reverse ++ front.reverse).takeWhile isNameChar = [] := by
    cases closing <;> rfl
  have allNamed : ∀ char ∈ name.reverse, isNameChar char = true := by
    intro char member
    exact isName char (List.mem_reverse.mp member)
  rw [behindEq, List.takeWhile_append_of_pos allNamed, stops, List.append_nil, List.reverse_reverse]

/-- A turn goes as a step, or the octet is read again as template text. -/
def Goes
    (behind : List Char)
    (char : Char)
    (rest tail : List Char)
    (state : Cursor.State)
    (loopState : State) : Prop :=
  Follows behind char rest (step state behind char rest)
      (turnAt (Text.size behind) (Text.octetsBehind behind) char tail loopState) ∨
    (step state behind char rest = stepText behind char rest ∧
      turnAt (Text.size behind) (Text.octetsBehind behind) char tail loopState =
        (.text, Text.size behind))

/-- A character that does not change the state. -/
theorem Agrees.follows_self
    {state : Cursor.State}
    {loopState : State}
    (agrees : Agrees behind.reverse state loopState)
    (calm : loopState.IsCalm)
    (char : Char)
    (rest : List Char) :
    Follows behind char rest (state, 0) (loopState, Text.size behind + 1) :=
  ⟨rfl, agrees.append [char] calm, pending_zero _ rest⟩

theorem follows_text
    (behind : List Char)
    (char : Char)
    (rest : List Char) :
    Follows behind char rest (.text, 0) (.text, Text.size behind + 1) :=
  ⟨rfl, .text, pending_zero _ rest⟩

theorem goes_tagName
    {span : TagSpan}
    {name : List Char}
    (opened : Text.slice? behind.reverse span.start span.nameStart = some (opener span.closing))
    (named : Text.slice? behind.reverse span.nameStart span.nameEnd = some name)
    (isName : ∀ char ∈ name, isNameChar char = true)
    (atEnd : span.nameEnd = Text.size behind)
    (low : char.toNat < 128) :
    Goes behind char rest tail (.tagName span.start span.nameStart span.closing) (.tagName span) := by
  unfold Goes
  simp only [step, turnAt]
  split
  · rename_i goesOn
    left
    have size : Text.size [char] = 1 := Text.utf8Size_of_lt low
    refine ⟨rfl, ?_, pending_zero _ rest⟩
    have longer : Text.slice? (behind.reverse ++ [char]) span.nameStart (Text.size behind + 1) =
        some (name ++ [char]) := by
      have read := slice?_read behind [char]
      rw [size] at read
      rw [atEnd] at named
      exact Text.slice?_trans (Text.slice?_append named [char]) read
    have isLonger : ∀ other ∈ name ++ [char], isNameChar other = true := by
      intro other member
      rcases List.mem_append.mp member with old | new
      · exact isName other old
      · rw [List.mem_singleton.mp new]
        exact goesOn
    let later : TagSpan := { span with nameEnd := Text.size behind + 1 }
    have agrees : Agrees (behind.reverse ++ [char])
        (.tagName later.start later.nameStart later.closing) (.tagName later) := by
      refine .tagName (Text.slice?_append opened [char]) longer isLonger ?_
      rw [Text.size_append, Text.size_reverse, size]
    exact agrees
  split
  · left
    refine ⟨rfl, .inTag ⟨rfl, rfl, Text.slice?_append opened [char], ?_⟩, pending_zero _ rest⟩
    rw [takeWhile_of_named opened (atEnd ▸ named) isName]
    exact Text.slice?_append named [char]
  split
  · exact .inl (follows_text behind char rest)
  · exact .inr ⟨rfl, rfl⟩

theorem goes_inTag
    {tag : TagHead}
    {span : TagSpan}
    (noted : TagNoted behind.reverse tag span)
    (low : char.toNat < 128) :
    Goes behind char rest tail (.inTag tag) (.inTag span) := by
  unfold Goes
  simp only [step, turnAt]
  split
  · exact .inl (follows_text behind char rest)
  split
  · rename_i isQuote
    left
    rw [attributeBefore_octetsBehind]
    have quoted : IsQuote char := by simpa [IsQuote] using isQuote
    have size : Text.size [char] = 1 := Text.utf8Size_of_lt low
    have read := slice?_read behind [char]
    rw [size] at read
    exact ⟨rfl, .value ⟨noted.append [char], rfl, rfl, rfl, quoted, _, read⟩, pending_zero _ rest⟩
  split
  · exact .inr ⟨rfl, rfl⟩
  · exact .inl ((Agrees.inTag noted).follows_self trivial char rest)

theorem goes_value
    {head : ValueHead}
    {span : ValueSpan}
    (noted : ValueNoted behind.reverse head span)
    (encodes : Text.Encodes rest tail) :
    Goes behind char rest tail (.value head) (.value span) := by
  left
  simp only [step, turnAt, noted.quote, opensExpression_eq encodes]
  split
  · exact ⟨rfl, .inTag (noted.tag.append [char]), pending_zero _ rest⟩
  split
  · rename_i opens
    exact ⟨rfl, .expression (expressionNoted_read opens) isQuote_none (.some (noted.append _)),
      pending_of_opensExpression opens _⟩
  · exact (Agrees.value noted).follows_self trivial char rest

theorem goes_expression
    {start depth : Nat}
    {literal : Option Char}
    {within : Option ValueHead}
    {span : Option ValueSpan}
    (noted : ExpressionNoted behind.reverse start)
    (isQuote : ∀ quote ∈ literal, IsQuote quote)
    (around : Option.Rel (ValueNoted behind.reverse) within span) :
    Goes behind char rest tail (.expression start depth literal within)
      (.expression start depth literal span) := by
  left
  have goesOn (depth : Nat) (literal : Option Char) (isQuote : ∀ quote ∈ literal, IsQuote quote) :
      Follows behind char rest (.expression start depth literal within, 0)
        (.expression start depth literal span, Text.size behind + 1) :=
    (Agrees.expression noted isQuote around).follows_self trivial char rest
  simp only [step, turnAt, stepExpression, turnExpression]
  cases literal with
  | some quote =>
      dsimp only
      split
      · refine ⟨rfl, ?_, .inr ⟨rfl, trivial⟩⟩
        exact .expression (noted.append _) isQuote (rel_append _ around)
      split
      · exact goesOn depth none isQuote_none
      · exact goesOn depth (some quote) isQuote
  | none =>
      dsimp only
      split
      · rename_i opensLiteral
        apply goesOn
        rintro _ ⟨⟩
        simpa [IsQuote, or_comm] using opensLiteral
      split
      · exact goesOn (depth + 1) none isQuote_none
      split
      · cases depth with
        | succ depth => exact goesOn depth none isQuote_none
        | zero =>
            cases around with
            | none => exact follows_text behind char rest
            | some inValue => exact (Agrees.value inValue).follows_self trivial char rest
      · exact goesOn depth none isQuote_none

theorem goes_ignored
    {terminator : List Char}
    (nonempty : terminator ≠ [])
    (lowTerminator : ∀ char ∈ terminator, char.toNat < 128)
    (encodes : Text.Encodes rest tail)
    (low : char.toNat < 128) :
    Goes behind char rest tail (.ignored terminator) (.ignored terminator) := by
  left
  have encodesAll := Text.Encodes.whole char encodes
  rw [Text.octets_of_lt low] at encodesAll
  have sameFound : terminator.isPrefixOf (char :: tail) = terminator.isPrefixOf (char :: rest) :=
    encodesAll.isPrefixOf lowTerminator
  simp only [step, turnAt, sameFound]
  split
  · rename_i found
    obtain ⟨first, others, rfl⟩ := List.exists_cons_of_ne_nil nonempty
    obtain ⟨more, split⟩ := List.isPrefixOf_iff_prefix.mp found
    obtain rfl : rest = others ++ more := (List.cons.inj split).2.symm
    refine ⟨?_, .text, .inl ⟨by simp, ?_⟩⟩
    · simp only [List.length_cons, Nat.add_sub_cancel]
      omega
    · intro other member
      simp only [List.length_cons, Nat.add_sub_cancel, List.take_left] at member
      exact lowTerminator other (List.mem_cons_of_mem _ member)
  · exact (Agrees.ignored nonempty lowTerminator).follows_self trivial char rest

theorem Agrees.goes
    {state : Cursor.State}
    {loopState : State}
    (agrees : Agrees behind.reverse state loopState)
    (encodes : Text.Encodes rest tail)
    (low : char.toNat < 128) :
    Goes behind char rest tail state loopState := by
  cases agrees with
  | text => exact .inl (follows_turnText encodes low)
  | tagName opened named isName atEnd =>
      exact goes_tagName opened named isName (by rw [atEnd, Text.size_reverse]) low
  | inTag noted => exact goes_inTag noted low
  | value noted => exact goes_value noted encodes
  | expression noted isQuote around => exact goes_expression noted isQuote around
  | ignored nonempty lowTerminator => exact goes_ignored nonempty lowTerminator encodes low

/-- From a low character the loop gets to where the step of the pass leads. -/
theorem Agrees.exists_follows
    {state : Cursor.State}
    {loopState : State}
    (agrees : Agrees behind.reverse state loopState)
    (encodes : Text.Encodes rest tail)
    (low : char.toNat < 128) :
    ∃ turned,
      Leads (Text.octets behind.reverse ++ char :: tail) loopState (Text.size behind) turned.1
        turned.2 ∧
      Follows behind char rest (step state behind char rest) turned := by
  have length : (Text.octets behind.reverse).length = Text.size behind := by simp
  have here : (Text.octets behind.reverse ++ char :: tail)[Text.size behind]? = some char := by
    rw [← length]
    simp
  have leads (loopState : State) :
      Leads (Text.octets behind.reverse ++ char :: tail) loopState (Text.size behind)
        (turnAt (Text.size behind) (Text.octetsBehind behind) char tail loopState).1
        (turnAt (Text.size behind) (Text.octetsBehind behind) char tail loopState).2 := by
    have turned := leads_turn here loopState
    have inFront : (Text.octets behind.reverse ++ char :: tail).take (Text.size behind) =
        Text.octets behind.reverse := by
      rw [← length, List.take_left]
    have ahead : (Text.octets behind.reverse ++ char :: tail).drop (Text.size behind + 1) =
        tail := by
      rw [← length, List.drop_length_add_append]
      rfl
    rwa [turn, inFront, ahead] at turned
  rcases agrees.goes encodes low with follows | ⟨stepEq, turnEq⟩
  · exact ⟨_, leads loopState, follows⟩
  · have again := leads loopState
    rw [turnEq] at again
    rw [stepEq]
    exact ⟨_, again.trans (leads .text), follows_turnText encodes low⟩

end Steps

/-! ## The whole loop -/

theorem high_of_mem_tail_octets
    (char : Char) :
    ∀ octet ∈ (Text.octets [char]).tail, 128 ≤ octet.toNat := by
  rcases Nat.lt_or_ge char.toNat 128 with low | high
  · rw [Text.octets_of_lt low]
    simp
  · intro octet member
    exact Text.le_of_mem_octets high octet (List.mem_of_mem_tail member)

/-- The loop at a character of which it sees some octets only.  It is the last
one. -/
theorem exists_ends_of_cut
    {state : Cursor.State}
    {loopState : State}
    {skip : Nat}
    {behind part : List Char}
    {char : Char}
    (highChar : 128 ≤ char.toNat)
    (nonempty : part ≠ [])
    (high : ∀ octet ∈ part, 128 ≤ octet.toNat)
    (pending : Pending loopState skip [char])
    (agrees : Agrees (behind.reverse ++ [char].take skip) state loopState) :
    ∃ final,
      Ends (Text.octets behind.reverse ++ part) loopState (Text.size behind + skip) final ∧
        Agrees (behind.reverse ++ [char]) (run state skip behind [char]) final := by
  have length : (Text.octets behind.reverse).length = Text.size behind := by simp
  have past (final : State) : Ends (Text.octets behind.reverse ++ part) final
      ((Text.octets behind.reverse).length + part.length) final :=
    .stop (by simp)
  cases skip with
  | zero =>
      obtain ⟨later, calm, agreesLater, -, leads⟩ :=
        agrees.exists_high highChar behind [] (Text.octets behind.reverse) [] nonempty high
      rw [List.append_nil] at leads
      refine ⟨later, ?_, ?_⟩
      · rw [← length]
        exact leads later (past later)
      · rw [run_zero_cons, run_nil]
        simpa using agreesLater.append [char] calm
  | succ skip =>
      rcases pending with ⟨-, low⟩ | ⟨one, calm⟩
      · exact absurd (low char (by simp)) (Nat.not_lt_of_le highChar)
      · cases one
        have leads := agrees.leads_tail calm (Text.octets behind.reverse) [] nonempty
          fun octet member => high octet (List.mem_of_mem_tail member)
        rw [List.append_nil] at leads
        refine ⟨loopState, ?_, ?_⟩
        · rw [← length]
          exact leads loopState (past loopState)
        · rw [run_succ_cons, run_nil]
          exact agrees

/-- From where the pass over characters is, the loop comes to an end in the state
that the pass comes to.  While the pass passes over characters, the loop is as
many octets further. -/
theorem exists_ends
    {state : Cursor.State}
    {loopState : State}
    {skip : Nat}
    {behind ahead tail : List Char}
    (encodes : Text.Encodes ahead tail)
    (pending : Pending loopState skip ahead)
    (agrees : Agrees (behind.reverse ++ ahead.take skip) state loopState) :
    ∃ final,
      Ends (Text.octets behind.reverse ++ tail) loopState (Text.size behind + skip) final ∧
        Agrees (behind.reverse ++ ahead) (run state skip behind ahead) final := by
  induction ahead generalizing state loopState skip behind tail with
  | nil =>
      cases encodes
      refine ⟨loopState, .stop ?_, ?_⟩
      · simp
      · rw [run_nil]
        simpa using agrees
  | cons char rest inductionHypothesis =>
      cases encodes with
      | cut highChar nonempty high => exact exists_ends_of_cut highChar nonempty high pending agrees
      | @whole _ _ tail encodesRest =>
          have length : (Text.octets behind.reverse).length = Text.size behind := by simp
          -- The rest of the pass, once the loop is behind the character.
          have goOn {later : Cursor.State} {laterLoop : State} {laterSkip : Nat}
              (laterPending : Pending laterLoop laterSkip rest)
              (laterAgrees : Agrees (behind.reverse ++ char :: rest.take laterSkip) later laterLoop) :
              ∃ final,
                Ends (Text.octets behind.reverse ++ Text.octets [char] ++ tail) laterLoop
                    (Text.size behind + char.utf8Size + laterSkip) final ∧
                  Agrees (behind.reverse ++ char :: rest)
                    (run later laterSkip (char :: behind) rest) final := by
            have found : ∃ final,
                Ends (Text.octets (char :: behind).reverse ++ tail) laterLoop
                    (Text.size (char :: behind) + laterSkip) final ∧
                  Agrees ((char :: behind).reverse ++ rest)
                    (run later laterSkip (char :: behind) rest) final :=
              inductionHypothesis encodesRest laterPending (by simpa using laterAgrees)
            simpa [Nat.add_comm char.utf8Size] using found
          rw [← List.append_assoc]
          cases skip with
          | zero =>
              have agreesHere : Agrees behind.reverse state loopState := by simpa using agrees
              rw [run_zero_cons]
              rcases Nat.lt_or_ge char.toNat 128 with low | high
              · obtain ⟨turned, leads, follows⟩ := agreesHere.exists_follows encodesRest low
                obtain ⟨final, ends, agreesFinal⟩ := goOn follows.pending follows.agrees
                refine ⟨final, ?_, agreesFinal⟩
                rw [Text.utf8Size_of_lt low, ← follows.index, Text.octets_of_lt low,
                  List.append_assoc] at ends
                rw [Text.octets_of_lt low, List.append_assoc]
                exact leads final ends
              · obtain ⟨later, calm, agreesLater, noSkip, leads⟩ :=
                  agreesHere.exists_high high behind rest (Text.octets behind.reverse) tail
                    (Text.octets_singleton_ne_nil char) (Text.le_of_mem_octets high)
                rw [noSkip]
                obtain ⟨final, ends, agreesFinal⟩ := goOn (pending_zero later rest)
                  (by simpa using agreesLater.append [char] calm)
                refine ⟨final, ?_, agreesFinal⟩
                rw [Nat.add_zero, ← length]
                exact leads final (by simpa using ends)
          | succ skip =>
              rw [run_succ_cons]
              rcases pending with ⟨fits, low⟩ | ⟨one, calm⟩
              · have lowChar : char.toNat < 128 := low char (by simp)
                have restPending : Pending loopState skip rest := by
                  refine .inl ⟨Nat.le_of_succ_le_succ fits, ?_⟩
                  intro other member
                  exact low other (by simp [member])
                obtain ⟨final, ends, agreesFinal⟩ := goOn restPending agrees
                refine ⟨final, ?_, agreesFinal⟩
                rw [Text.utf8Size_of_lt lowChar, Nat.add_assoc, Nat.add_comm 1] at ends
                exact ends
              · cases one
                have leads := agrees.leads_tail calm (Text.octets behind.reverse) tail
                  (Text.octets_singleton_ne_nil char) (high_of_mem_tail_octets char)
                obtain ⟨final, ends, agreesFinal⟩ := goOn (pending_zero loopState rest) agrees
                refine ⟨final, ?_, agreesFinal⟩
                rw [← length]
                exact leads final (by simpa using ends)

/-- Wherever the offset lies, the loop comes to an end, in agreement with the pass
over characters. -/
theorem exists_agrees
    (chars : List Char)
    (offset : Nat) :
    ∃ final, Ends ((Text.octets chars).take offset) .text 0 final ∧
      Agrees (Text.reaching offset chars)
        (Cursor.run .text 0 [] (Text.reaching offset chars)) final := by
  have agrees : Agrees (([] : List Char).reverse ++ (Text.reaching offset chars).take 0)
      Cursor.State.text State.text := .text
  exact exists_ends (Text.encodes_reaching chars offset) (pending_zero _ _) agrees

theorem Agrees.context?_eq
    {seen : List Char}
    {state : Cursor.State}
    {loopState : State}
    (agrees : Agrees seen state loopState)
    {chars : List Char}
    (isFront : seen <+: chars) :
    loopState.context? chars = some state.context := by
  obtain ⟨more, rfl⟩ := isFront
  cases agrees with
  | text => rfl
  | tagName => rfl
  | inTag noted =>
      simp only [State.context?, Cursor.State.context, noted.closing, noted.start,
        Text.slice?_append noted.name more]
      split <;> rfl
  | value noted =>
      simp only [State.context?, Cursor.State.context, noted.attr, noted.start,
        Text.slice?_append noted.tag.name more]
      rfl
  | expression => rfl
  | ignored => rfl

/-- The loop comes to an end in one way only, and its outcome, with the name of the
tag cut out of the text, is the classification. -/
theorem existsUnique_ends
    (chars : List Char)
    (offset : Nat) :
    ∃ final, (∀ other, Ends ((Text.octets chars).take offset) .text 0 other ↔ other = final) ∧
      final.context? chars = some (classify chars offset) := by
  obtain ⟨final, ends, agrees⟩ := exists_agrees chars offset
  have isFront := reaching_prefix offset chars
  refine ⟨final, ?_, agrees.context?_eq isFront⟩
  intro other
  constructor
  · intro otherEnds
    exact otherEnds.unique ends
  · rintro rfl
    exact ends

end Loop

/-! ## Where things begin -/

open Loop

/-- A position, at most at an offset, lies right behind a word. -/
def LiesBehind (chars : List Char) (offset : Nat) (word : List Char) (position : Nat) : Prop :=
  position ≤ offset ∧ ∃ start, Text.slice? chars start position = some word

/-- Every position of a context lies between two characters, at most at an offset,
and right behind the delimiter that opened what begins there: a bracket, with a
slash in an end tag, a quote, or a mark with a brace.  A tag begins with its
bracket, and its name stands in the text. -/
def CursorContext.Delimited (chars : List Char) (offset : Nat) : CursorContext → Prop
  | text | ignored => True
  | tagName nameStart closing => LiesBehind chars offset (opener closing) nameStart
  | attributeName tagStart name =>
      Text.slice? chars tagStart (tagStart + 1) = some ['<'] ∧
        ∃ stop ≤ offset, Text.slice? chars (tagStart + 1) stop = some name.toList
  | attributeValue name _ valueStart =>
      (LiesBehind chars offset ['"'] valueStart ∨ LiesBehind chars offset ['\''] valueStart) ∧
        ∃ start, ∃ stop ≤ offset, Text.slice? chars start stop = some name.toList
  | expression start _ =>
      LiesBehind chars offset "$\x7b".toList start ∨ LiesBehind chars offset "#\x7b".toList start

section Delimited

variable {seen : List Char} (more : List Char)

theorem liesBehind_append
    {word : List Char}
    {start stop : Nat}
    (cut : Text.slice? seen start stop = some word) :
    LiesBehind (seen ++ more) (Text.size seen) word stop :=
  ⟨Text.stop_le_of_slice? cut, start, Text.slice?_append cut more⟩

/-- The name of a start tag stands right behind its bracket. -/
theorem Loop.TagNoted.delimited
    {tag : Cursor.TagHead}
    {span : TagSpan}
    (noted : TagNoted seen tag span)
    (isStart : tag.closing = false) :
    (CursorContext.attributeName tag.start (String.ofList tag.name)).Delimited (seen ++ more)
      (Text.size seen) := by
  have opened := noted.opened
  have named := noted.name
  rw [noted.closing, isStart, noted.start] at opened
  have nameStart : span.nameStart = tag.start + 1 := Text.stop_eq_of_slice? opened
  rw [nameStart] at opened named
  refine ⟨Text.slice?_append opened more, _, Text.stop_le_of_slice? named, ?_⟩
  rw [String.toList_ofList]
  exact Text.slice?_append named more

theorem Loop.ValueNoted.delimited
    {head : Cursor.ValueHead}
    {span : ValueSpan}
    (noted : ValueNoted seen head span) :
    (CursorContext.attributeValue (String.ofList head.tag.name) (String.ofList head.attr)
      head.start).Delimited (seen ++ more) (Text.size seen) := by
  obtain ⟨position, opened⟩ := noted.opened
  refine ⟨?_, span.tag.nameStart, span.tag.nameEnd, Text.stop_le_of_slice? noted.tag.name, ?_⟩
  · rcases noted.isQuote with double | single
    · rw [double] at opened
      exact .inl (liesBehind_append more opened)
    · rw [single] at opened
      exact .inr (liesBehind_append more opened)
  · rw [String.toList_ofList]
    exact Text.slice?_append noted.tag.name more

/-- What the loop has noted is delimited. -/
theorem Loop.Agrees.delimited
    {state : Cursor.State}
    {loopState : Loop.State}
    (agrees : Agrees seen state loopState) :
    state.context.Delimited (seen ++ more) (Text.size seen) := by
  cases agrees with
  | text => trivial
  | tagName opened named isName atEnd => exact liesBehind_append more opened
  | @inTag tag span noted =>
      simp only [Cursor.State.context]
      split
      · trivial
      · rename_i notClosing
        exact noted.delimited more (by simpa using notClosing)
  | value noted => exact noted.delimited more
  | expression noted isQuote around =>
      obtain ⟨position, mark, rfl | rfl, opened⟩ := noted
      · exact .inl (liesBehind_append more opened)
      · exact .inr (liesBehind_append more opened)
  | ignored => trivial

end Delimited

/-- At a border between characters, classifications are delimited. -/
theorem classify_delimited
    (front back : List Char) :
    (classify (front ++ back) (Text.size front)).Delimited (front ++ back) (Text.size front) := by
  obtain ⟨final, -, agrees⟩ := exists_agrees (front ++ back) (Text.size front)
  have reached : Text.reaching (Text.size front) (front ++ back) = front := by
    have whole := Grammar.reaching_size_add front back 0
    have nothing : Text.reaching 0 back = [] := by cases back <;> rfl
    rwa [Nat.add_zero, nothing, List.append_nil] at whole
  rw [reached] at agrees
  rw [classify, reached]
  exact agrees.delimited back

end Markup
end JspCompletion
