import JspCompletion.Proofs.Completion.Edit
import JspCompletion.Proofs.Markup.Agreement

/-!
# Completion stays inside the text

Here the providers of suggestions are written once more, with every part of the
document that they read cut out by a checked slice.  Positions are counted in
bytes, and the scans for the typed identifier and for the end of the tag go over
bytes.  None of the slices fails, and the outcome is that of the providers over
characters: classifications are delimited, and what the byte scans look for is
below 128, so they stop between characters.
-/

namespace JspCompletion

/-! ## The typed identifier -/

namespace Markup

/-- Where the identifier characters at the end of a text begin, found in its
bytes. -/
def identifierStart (text : List Char) : Nat :=
  Text.size text - ((Text.octets text).reverse.takeWhile isIdentifierChar).length

/-- The identifier at the end of a text, cut out by its offsets. -/
def trailingIdentifier? (text : List Char) : Option (List Char) := do
  let run ← Text.slice? text (identifierStart text) (Text.size text)
  if run.any Char.isAlpha then
    Text.slice? run (Text.size (run.takeWhile fun char => !char.isAlpha)) (Text.size run)
  else
    some []

theorem isIdentifierChar_of_high
    {char : Char}
    (high : 128 ≤ char.toNat) :
    isIdentifierChar char = false := by
  rw [← Bool.not_eq_true]
  intro allowed
  exact Nat.not_lt_of_le high (toNat_lt_of_isIdentifierChar allowed)

/-- The scan over bytes stops at a border. -/
theorem slice?_identifierStart
    (text : List Char) :
    Text.slice? text (identifierStart text) (Text.size text) =
      some (text.reverse.takeWhile isIdentifierChar).reverse := by
  let run := text.reverse.takeWhile isIdentifierChar
  let front := text.reverse.dropWhile isIdentifierChar
  have textEq : front.reverse ++ run.reverse = text := by
    rw [← List.reverse_append, List.takeWhile_append_dropWhile, List.reverse_reverse]
  have scanned : (Text.octets text).reverse.takeWhile isIdentifierChar = run := by
    have behind := Text.takeWhile_octetsBehind
      (fun _ => isIdentifierChar_of_high) text.reverse
    rwa [Text.octetsBehind, List.reverse_reverse] at behind
  have low : ∀ char ∈ run, char.toNat < 128 := by
    intro char member
    exact toNat_lt_of_isIdentifierChar (List.mem_takeWhile_imp member)
  have startEq : identifierStart text = Text.size front.reverse := by
    have sizes := congrArg Text.size textEq
    rw [Text.size_append, Text.size_reverse run, Text.size_eq_length low] at sizes
    rw [identifierStart, scanned]
    omega
  have cut := Text.slice?_size front.reverse run.reverse
  rwa [textEq, ← startEq] at cut

theorem trailingIdentifier?_eq
    (text : List Char) :
    trailingIdentifier? text = some (trailingIdentifier text) := by
  rw [trailingIdentifier?, slice?_identifierStart, trailingIdentifier, Option.bind_eq_bind,
    Option.bind_some]
  generalize (text.reverse.takeWhile isIdentifierChar).reverse = run
  split
  · have cut := Text.slice?_size (run.takeWhile fun char => !char.isAlpha)
      (run.dropWhile fun char => !char.isAlpha)
    rwa [List.takeWhile_append_dropWhile] at cut
  · rename_i noLetter
    have nothing : run.dropWhile (fun char => !char.isAlpha) = [] := by
      rw [List.dropWhile_eq_nil_iff]
      simpa using noLetter
    rw [nothing]

/-! ## The rest of the tag -/

/-- The index and value of the first byte outside quotes that is an angle bracket.
The quote of an open value is `quote`, and `index` bytes lie in front. -/
def delimiter? : (quote : Option Char) → (index : Nat) → List Char → Option (Nat × Char)
  | _, _, [] => none
  | some quote, index, octet :: rest =>
      delimiter? (if octet == quote then none else some quote) (index + 1) rest
  | none, index, octet :: rest =>
      if octet == '<' || octet == '>' then
        some (index, octet)
      else
        delimiter? (if octet == '"' || octet == '\'' then some octet else none) (index + 1) rest

/-- The first angle bracket outside quotes behind the rest of a name. -/
def tagDelimiter? (behindCursor : List Char) : Option (Nat × Char) :=
  delimiter? none 0 (Text.octets (afterName behindCursor))

/-- What is left of the tag under the cursor, cut out by its offsets. -/
def tagTail? (behindCursor : List Char) : Option (List Char) :=
  let rest := afterName behindCursor
  Text.slice? rest 0 (((tagDelimiter? behindCursor).map (·.1)).getD (Text.size rest))

section Delimiter

variable {quote : Option Char} (lowQuote : ∀ char ∈ quote, char.toNat < 128)

include lowQuote

/-- Bytes of characters that have several are read over. -/
theorem delimiter?_high
    {part : List Char}
    (high : ∀ octet ∈ part, 128 ≤ octet.toNat)
    (index : Nat)
    (rest : List Char) :
    delimiter? quote index (part ++ rest) = delimiter? quote (index + part.length) rest := by
  induction part generalizing index with
  | nil => rfl
  | cons octet part inductionHypothesis =>
      have highOctet := high octet List.mem_cons_self
      have others := inductionHypothesis
        (fun other member => high other (List.mem_cons_of_mem _ member)) (index + 1)
      have length : index + (octet :: part).length = index + 1 + part.length := by
        rw [List.length_cons]
        omega
      rw [length, ← others]
      cases quote with
      | some quote =>
          have notQuote : octet ≠ quote := Text.ne_of_high highOctet (lowQuote quote rfl)
          simp [delimiter?, notQuote]
      | none => simp [delimiter?, Text.ne_of_high highOctet]

theorem splitAtBracket_high
    {char : Char}
    (high : 128 ≤ char.toNat)
    (rest : List Char) :
    splitAtBracket quote (char :: rest) =
      (char :: (splitAtBracket quote rest).1, (splitAtBracket quote rest).2) := by
  cases quote with
  | some quote =>
      have notQuote : char ≠ quote := Text.ne_of_high high (lowQuote quote rfl)
      simp [splitAtBracket, notQuote]
  | none => simp [splitAtBracket, Text.ne_of_high high]

/-- The scan over bytes finds the bracket at which the text is split. -/
theorem delimiter?_octets
    (index : Nat)
    (text : List Char) :
    delimiter? quote index (Text.octets text) =
      (splitAtBracket quote text).2.head?.map fun bracket =>
        (index + Text.size (splitAtBracket quote text).1, bracket) := by
  induction text generalizing quote index with
  | nil => cases quote <;> rfl
  | cons char rest inductionHypothesis =>
      rw [Text.octets_cons]
      rcases Nat.lt_or_ge char.toNat 128 with low | high
      · rw [Text.octets_of_lt low, List.singleton_append]
        have size := Text.utf8Size_of_lt low
        cases quote with
        | some quote =>
            have lowNext : ∀ next ∈ (if char == quote then none else some quote : Option Char),
                next.toNat < 128 := by
              intro next member
              split at member
              · cases member
              · exact lowQuote next member
            simp only [delimiter?, splitAtBracket, inductionHypothesis lowNext, Text.size_cons, size,
              Nat.add_assoc]
        | none =>
            have lowNext : ∀ next ∈ (if char == '"' || char == '\'' then some char else none :
                Option Char), next.toNat < 128 := by
              intro next member
              split at member
              · cases member
                exact low
              · cases member
            simp only [delimiter?, splitAtBracket]
            split
            · rfl
            · simp only [inductionHypothesis lowNext, Text.size_cons, size, Nat.add_assoc]
      · rw [delimiter?_high lowQuote (Text.le_of_mem_octets high), inductionHypothesis lowQuote,
          splitAtBracket_high lowQuote high]
        simp [Nat.add_assoc]

end Delimiter

theorem tagDelimiter?_eq
    (behindCursor : List Char) :
    tagDelimiter? behindCursor =
      (splitAtBracket none (afterName behindCursor)).2.head?.map fun bracket =>
        (Text.size (tagTail behindCursor), bracket) := by
  rw [tagDelimiter?, delimiter?_octets (by simp), tagTail]
  simp only [Nat.zero_add]

theorem any_tagDelimiter?
    (behindCursor : List Char) :
    (tagDelimiter? behindCursor).any (·.2 == '>') = isClosedBehind behindCursor := by
  rw [tagDelimiter?_eq, isClosedBehind]
  cases (splitAtBracket none (afterName behindCursor)).2.head? <;> rfl

theorem tagTail?_eq
    (behindCursor : List Char) :
    tagTail? behindCursor = some (tagTail behindCursor) := by
  have restEq : tagTail behindCursor ++ (splitAtBracket none (afterName behindCursor)).2 =
      afterName behindCursor :=
    splitAtBracket_append _
  rw [tagTail?, tagDelimiter?_eq]
  refine (Text.slice?_eq_some_iff ..).mpr ⟨[], _, restEq.symm, rfl, ?_⟩
  cases found : (splitAtBracket none (afterName behindCursor)).2 with
  | nil =>
      rw [found, List.append_nil] at restEq
      simp [restEq]
  | cons => simp

end Markup

/-! ## Parts of the document -/

namespace Text

theorem isBorder_floorBoundary
    (text : List Char)
    (offset : Nat) :
    isBorder text (floorBoundary text offset) = true :=
  (isBorder_iff ..).mpr ⟨_, _, (before_append_after offset text).symm, rfl⟩

end Text

namespace CompletionRequest

variable {request : CompletionRequest}
  (atBorder : Text.isBorder request.text request.offset = true)

include atBorder

theorem slice?_since
    {start : Nat}
    (startBorder : Text.isBorder request.text start = true)
    (inOrder : start ≤ request.offset) :
    Text.slice? request.text start request.offset = some (request.since start) :=
  if_pos ⟨inOrder, startBorder, atBorder⟩

theorem slice?_beforeCursor :
    Text.slice? request.text 0 request.offset = some request.beforeCursor := by
  obtain ⟨front, back, textEq, offsetEq⟩ := (Text.isBorder_iff ..).mp atBorder
  have beforeEq : request.beforeCursor = front := by
    rw [beforeCursor, textEq, offsetEq, Text.before_size_append]
  rw [beforeEq]
  exact (Text.slice?_eq_some_iff ..).mpr ⟨[], back, textEq, rfl, by simp [offsetEq]⟩

theorem slice?_afterCursor :
    Text.slice? request.text request.offset (Text.size request.text) =
      some request.afterCursor := by
  obtain ⟨front, back, textEq, offsetEq⟩ := (Text.isBorder_iff ..).mp atBorder
  have afterEq : request.afterCursor = back := by
    rw [afterCursor, textEq, offsetEq, Text.after_size_append]
  rw [afterEq, textEq, offsetEq]
  exact Text.slice?_size front back

theorem slice?_of_liesBehind
    {word : List Char}
    {position : Nat}
    (behind : Markup.LiesBehind request.text request.offset word position) :
    Text.slice? request.text position request.offset = some (request.since position) := by
  obtain ⟨inOrder, start, cut⟩ := behind
  exact slice?_since atBorder (Text.isBorder_stop cut) inOrder

end CompletionRequest

/-! ## The providers -/

namespace Completion

/-- `inExpression` with checked slices. -/
def inExpression?
    (request : CompletionRequest)
    (start : Nat)
    (inString : Bool)
    (workspace : Workspace) : Option (List Suggestion × Workspace) :=
  if inString then
    some ([], workspace)
  else do
    let expression ← Text.slice? request.text start request.offset
    let typed ← Markup.trailingIdentifier? expression
    if !request.accepts typed || Markup.endsInProperty expression then
      some ([], workspace)
    else do
      let beforeCursor ← Text.slice? request.text 0 request.offset
      let (declared, workspace) := workspace.declaredLibraries beforeCursor request.file
      let context : MatchContext := { typed := String.ofList typed, declared }
      let (found, workspace) := workspace.query {} true
      let offered := (found.map (·.2)).filter fun element => isExpressionKind element.kind
      some (Descriptor.suggestReached context offered, workspace)

/-- What completing a tag name writes, with a checked slice. -/
def tagCompletion?
    (request : CompletionRequest)
    (closing : Bool) : Option TagCompletion :=
  if closing then
    some .closing
  else do
    let afterCursor ← Text.slice? request.text request.offset (Text.size request.text)
    if (Markup.tagDelimiter? afterCursor).any (·.2 == '>') then
      some .nameOnly
    else
      some .full

/-- `ofTags` with checked slices. -/
def ofTags?
    (request : CompletionRequest)
    (nameStart : Nat)
    (closing : Bool)
    (workspace : Workspace) : Option (List Suggestion × Workspace) := do
  let name ← Text.slice? request.text nameStart request.offset
  let typed ← Markup.trailingIdentifier? name
  if !request.accepts typed then
    some ([], workspace)
  else do
    let tagCompletion ← tagCompletion? request closing
    let beforeCursor ← Text.slice? request.text 0 request.offset
    let (declared, workspace) := workspace.declaredLibraries beforeCursor request.file
    let context : MatchContext := { typed := String.ofList typed, declared, tagCompletion }
    let (found, workspace) := workspace.query { kind := some .tag } true
    some (Descriptor.suggestReached context (found.map (·.2)), workspace)

/-- The difference of two offsets, unless the second is larger. -/
def difference? (offset other : Nat) : Option Nat :=
  if other ≤ offset then some (offset - other) else none

/-- `ofAttributes` with checked slices, and a checked difference of offsets. -/
def ofAttributes?
    (request : CompletionRequest)
    (tagStart : Nat)
    (tagName : String)
    (workspace : Workspace) : Option (List Suggestion × Workspace) := do
  let inTag ← Text.slice? request.text tagStart request.offset
  let typed ← Markup.trailingIdentifier? inTag
  let headEnd ← difference? request.offset (Text.size typed)
  let beforeTyped ← Text.slice? request.text 0 headEnd
  if !beforeTyped.getLast?.any Text.isMarkupSpace || !request.accepts typed then
    some ([], workspace)
  else
    match splitName? tagName.toList with
    | none => some ([], workspace)
    | some (space, localName) => do
        let beforeCursor ← Text.slice? request.text 0 request.offset
        let (declared, workspace) := workspace.declaredLibraries beforeCursor request.file
        match findTag? declared (String.ofList space) (String.ofList localName) with
        | none => some ([], workspace)
        | some tag => do
            let afterCursor ← Text.slice? request.text request.offset (Text.size request.text)
            let tail ← Markup.tagTail? afterCursor
            let head ← Text.slice? request.text tagStart headEnd
            let written := Markup.attributes head ++ Markup.attributes tail
            let context : MatchContext :=
              { typed := String.ofList typed, declared, enclosing := some (String.ofList space) }
            some (Descriptor.suggestReached context (missingAttributes tag written), workspace)

/-- `ofValues` with checked slices. -/
def ofValues?
    (request : CompletionRequest)
    (attributeName : String)
    (valueStart : Nat)
    (workspace : Workspace) : Option (List Suggestion × Workspace) :=
  match valueKind? attributeName with
  | none => some ([], workspace)
  | some kind => do
      let value ← Text.slice? request.text valueStart request.offset
      let typed ← Markup.trailingIdentifier? value
      if !request.accepts typed then
        some ([], workspace)
      else
        let context : MatchContext := { typed := String.ofList typed, declared := [] }
        let (found, workspace) := workspace.query { kind := some kind } true
        some (Descriptor.suggestReached context (found.map (·.2)), workspace)

/-- `suggest` with checked slices. -/
def suggest?
    (request : CompletionRequest)
    (workspace : Workspace) : Option (List Suggestion × Workspace) :=
  match Markup.classify request.text request.offset with
  | .expression start inString => inExpression? request start inString workspace
  | .tagName nameStart closing => ofTags? request nameStart closing workspace
  | .attributeName tagStart tagName => ofAttributes? request tagStart tagName workspace
  | .attributeValue _ attributeName valueStart =>
      ofValues? request attributeName valueStart workspace
  | .text | .ignored => some ([], workspace)

section Providers

variable {request : CompletionRequest}
  (atBorder : Text.isBorder request.text request.offset = true)
  (workspace : Workspace)

include atBorder

theorem inExpression?_eq
    {start : Nat}
    {inString : Bool}
    (delimited : (Markup.CursorContext.expression start inString).Delimited request.text
      request.offset) :
    inExpression? request start inString workspace =
      some (inExpression request start inString workspace) := by
  have cut : Text.slice? request.text start request.offset = some (request.since start) := by
    rcases delimited with dollar | hash
    · exact CompletionRequest.slice?_of_liesBehind atBorder dollar
    · exact CompletionRequest.slice?_of_liesBehind atBorder hash
  cases inString with
  | true => rfl
  | false =>
      simp only [inExpression?, inExpression, cut, Markup.trailingIdentifier?_eq,
        CompletionRequest.slice?_beforeCursor atBorder, Option.bind_eq_bind, Option.bind_some,
        Bool.false_eq_true, if_false, Bool.false_or]
      split <;> rfl

theorem tagCompletion?_eq
    (closing : Bool) :
    tagCompletion? request closing =
      some (if closing then .closing
        else if Markup.isClosedBehind request.afterCursor then .nameOnly else .full) := by
  simp only [tagCompletion?, CompletionRequest.slice?_afterCursor atBorder,
    Markup.any_tagDelimiter?, Option.bind_eq_bind, Option.bind_some]
  split
  · rfl
  · split <;> rfl

theorem ofTags?_eq
    {nameStart : Nat}
    {closing : Bool}
    (delimited : (Markup.CursorContext.tagName nameStart closing).Delimited request.text
      request.offset) :
    ofTags? request nameStart closing workspace =
      some (ofTags request nameStart closing workspace) := by
  simp only [ofTags?, ofTags, CompletionRequest.slice?_of_liesBehind atBorder delimited,
    Markup.trailingIdentifier?_eq, tagCompletion?_eq atBorder,
    CompletionRequest.slice?_beforeCursor atBorder, Option.bind_eq_bind, Option.bind_some]
  split <;> rfl

theorem ofValues?_eq
    {tagName attributeName : String}
    {valueStart : Nat}
    (delimited : (Markup.CursorContext.attributeValue tagName attributeName valueStart).Delimited
      request.text request.offset) :
    ofValues? request attributeName valueStart workspace =
      some (ofValues request attributeName valueStart workspace) := by
  have cut : Text.slice? request.text valueStart request.offset =
      some (request.since valueStart) := by
    rcases delimited.1 with double | single
    · exact CompletionRequest.slice?_of_liesBehind atBorder double
    · exact CompletionRequest.slice?_of_liesBehind atBorder single
  cases kindEq : valueKind? attributeName with
  | none => simp only [ofValues?, ofValues, kindEq]
  | some kind =>
      simp only [ofValues?, ofValues, kindEq, cut, Markup.trailingIdentifier?_eq,
        Option.bind_eq_bind, Option.bind_some]
      split <;> rfl

/-- In front of what was typed the tag is not empty, since no identifier begins
with a bracket. -/
theorem exists_head
    {tagStart : Nat}
    {tagName : String}
    (delimited : (Markup.CursorContext.attributeName tagStart tagName).Delimited request.text
      request.offset) :
    ∃ head, head ≠ [] ∧
      head ++ Markup.trailingIdentifier (request.since tagStart) = request.since tagStart ∧
      Text.slice? request.text tagStart request.offset = some (request.since tagStart) := by
  obtain ⟨bracket, stop, stopLe, named⟩ := delimited
  have inOrder : tagStart + 1 ≤ request.offset := by
    have stopEq := Text.stop_eq_of_slice? named
    omega
  have cut := CompletionRequest.slice?_since atBorder (Text.isBorder_start bracket)
    (Nat.le_of_succ_le inOrder)
  have cutBehind := CompletionRequest.slice?_since atBorder (Text.isBorder_stop bracket) inOrder
  have sinceEq : request.since tagStart = '<' :: request.since (tagStart + 1) := by
    have whole := Text.slice?_trans bracket cutBehind
    rw [cut] at whole
    exact Option.some.inj whole
  obtain ⟨head, headEq⟩ := Markup.trailingIdentifier_suffix (request.since tagStart)
  refine ⟨head, ?_, headEq, cut⟩
  rintro rfl
  rw [List.nil_append] at headEq
  have inTyped : '<' ∈ Markup.trailingIdentifier (request.since tagStart) := by
    rw [headEq, sinceEq]
    exact List.mem_cons_self
  exact absurd (Markup.isIdentifierChar_of_mem_trailingIdentifier inTyped) (by decide)

theorem ofAttributes?_eq
    {tagStart : Nat}
    {tagName : String}
    (delimited : (Markup.CursorContext.attributeName tagStart tagName).Delimited request.text
      request.offset) :
    ofAttributes? request tagStart tagName workspace =
      some (ofAttributes request tagStart tagName workspace) := by
  obtain ⟨head, nonempty, sinceEq, cut⟩ := exists_head atBorder delimited
  simp only [ofAttributes?, ofAttributes, cut, Markup.trailingIdentifier?_eq,
    Option.bind_eq_bind, Option.bind_some]
  generalize Markup.trailingIdentifier (request.since tagStart) = typed at sinceEq ⊢
  rw [← sinceEq] at cut ⊢
  have headEq : (head ++ typed).take ((head ++ typed).length - typed.length) = head := by simp
  have fits : Text.size typed ≤ request.offset := by
    rw [Text.stop_eq_of_slice? cut, Text.size_append]
    omega
  have cutHead := Text.slice?_front cut
  obtain ⟨front, cutFront⟩ := Text.exists_slice?_zero cutHead
  rw [headEq, difference?, if_pos fits]
  simp only [cutFront, cutHead, List.getLast?_append_of_ne_nil front nonempty,
    CompletionRequest.slice?_beforeCursor atBorder,
    CompletionRequest.slice?_afterCursor atBorder, Markup.tagTail?_eq, Option.bind_some]
  split
  · rfl
  · cases splitName? tagName.toList with
    | none => rfl
    | some parts =>
        dsimp only
        generalize findTag? _ (String.ofList parts.1) (String.ofList parts.2) = found
        cases found with
        | none => rfl
        | some tag => rfl

theorem classify_delimited_of_isBorder :
    (Markup.classify request.text request.offset).Delimited request.text request.offset := by
  obtain ⟨front, back, textEq, offsetEq⟩ := (Text.isBorder_iff ..).mp atBorder
  rw [textEq, offsetEq]
  exact Markup.classify_delimited front back

/-- No slice fails, and the outcome is that of the providers over characters. -/
theorem suggest?_eq :
    suggest? request workspace = some (suggest request workspace) := by
  have delimited := classify_delimited_of_isBorder atBorder
  rw [suggest?, suggest]
  generalize Markup.classify request.text request.offset = context at delimited
  cases context with
  | text => rfl
  | ignored => rfl
  | expression start inString => exact inExpression?_eq atBorder workspace delimited
  | tagName nameStart closing => exact ofTags?_eq atBorder workspace delimited
  | attributeName tagStart tagName => exact ofAttributes?_eq atBorder workspace delimited
  | attributeValue tagName attributeName valueStart =>
      exact ofValues?_eq atBorder workspace delimited

end Providers

/-- Completion stays inside the text, for every text, offset and workspace.

Wherever classification is asked for, the loop over bytes comes to an end, in one
way only, and cuts the name of a tag out of the text.  The offset of a request is
a border at or in front of the one asked for, every position in the context there
lies behind the delimiter that opened what begins at it, and no slice that the
providers take fails. -/
theorem completion_stays_inside
    (text : List Char)
    (offset : Nat)
    (file : Option Path)
    (manual : Bool)
    (minimumLength : Nat)
    (workspace : Workspace) :
    let request := CompletionRequest.make text offset file manual minimumLength
    (∀ position, ∃ final,
      (∀ other, Markup.Loop.Ends ((Text.octets text).take position) .text 0 other ↔
        other = final) ∧
      final.context? text = some (Markup.classify text position)) ∧
    (Text.isBorder text request.offset = true ∧ request.offset ≤ offset) ∧
    (Markup.classify text request.offset).Delimited text request.offset ∧
    suggest? request workspace = some (suggest request workspace) := by
  intro request
  have atBorder : Text.isBorder request.text request.offset = true :=
    Text.isBorder_floorBoundary text offset
  exact ⟨Markup.Loop.existsUnique_ends text, ⟨atBorder, Text.size_before_le offset text⟩,
    classify_delimited_of_isBorder atBorder, suggest?_eq atBorder workspace⟩

end Completion
end JspCompletion
