import JspCompletion.Session.Document
import JspCompletion.Proofs.Text.Bytes

/-!
# What the items of a completion list replace

Whatever the cursor stands in, suggestions replace the identifier in front of
it.  Identifiers are ASCII and lie on one line, so bytes and code units count
alike, and neither end of the replaced stretch can fall behind a carriage
return.  The main result follows an item from the cursor's position to its edit
and back: the edit covers the typed identifier and nothing else.

Where nothing was typed the edit is empty, and nothing is said about the byte
offset of its position.
-/

namespace JspCompletion

/-! ## Identifiers -/

namespace Markup

theorem toNat_lt_of_isIdentifierChar
    {char : Char}
    (allowed : isIdentifierChar char = true) :
    char.toNat < 128 := by
  simp only [isIdentifierChar, Bool.or_eq_true, beq_iff_eq] at allowed
  rcases allowed with (isAlphanum | rfl) | rfl
  · exact Text.lt_of_isAlphanum isAlphanum
  · decide
  · decide

/-- The identifier at the end of a text ends it. -/
theorem trailingIdentifier_suffix (text : List Char) : trailingIdentifier text <:+ text := by
  refine (List.dropWhile_suffix _).trans ?_
  rw [← List.reverse_prefix, List.reverse_reverse]
  exact List.takeWhile_prefix _

theorem isIdentifierChar_of_mem_trailingIdentifier
    {text : List Char}
    {char : Char}
    (member : char ∈ trailingIdentifier text) :
    isIdentifierChar char = true := by
  have inRun := (List.dropWhile_suffix _).subset member
  exact List.mem_takeWhile_imp (List.mem_reverse.mp inRun)

end Markup

namespace Text

/-- Characters that one byte and one code unit stand for, and that neither end
a line nor return to its start. -/
def InLine (text : List Char) : Prop :=
  ∀ char ∈ text, char.toNat < 128 ∧ char ≠ '\n' ∧ char ≠ '\r'

theorem InLine.units_eq_size
    {text : List Char}
    (inLine : InLine text) :
    units text = size text := by
  induction text with
  | nil => rfl
  | cons char rest inductionHypothesis =>
      have ascii := (inLine char List.mem_cons_self).1
      have oneByte : char.utf8Size = 1 := utf8Size_of_lt ascii
      have oneUnit : unitCount char = 1 := if_pos (by omega)
      rw [units_cons, size_cons, oneByte, oneUnit,
        inductionHypothesis fun other member => inLine other (List.mem_cons_of_mem _ member)]

/-- Behind characters of one line a position lies on the same line, further by
as many columns as they have bytes. -/
theorem InLine.positionOf_append
    {middle : List Char}
    (inLine : InLine middle)
    (front back : List Char) :
    positionOf (front ++ middle ++ back) (size front + size middle) =
      { line := (positionOf (front ++ middle ++ back) (size front)).line
        character :=
          (positionOf (front ++ middle ++ back) (size front)).character + size middle } := by
  have noNewline : '\n' ∉ middle := fun member => (inLine '\n' member).2.1 rfl
  have sameLine : ∀ char ∈ middle.reverse, (char != '\n') = true :=
    forall_bne_newline fun member => noNewline (List.mem_reverse.mp member)
  have atStart : before (size front) (front ++ middle ++ back) = front := by
    rw [List.append_assoc, before_size_append]
  rw [positionOf, positionOf, ← size_append, before_size_append, atStart, List.count_append,
    List.count_eq_zero.mpr noNewline, List.reverse_append,
    List.takeWhile_append_of_pos sameLine, units_append, units_reverse, inLine.units_eq_size]
  simp only [Nat.add_zero, Nat.add_comm]

/-- Both ends of a stretch of one line mark their columns. -/
theorem InLine.marksColumn
    {middle : List Char}
    (inLine : InLine middle)
    (nonempty : middle ≠ [])
    (front back : List Char) :
    MarksColumn front (middle ++ back) ∧ MarksColumn (front ++ middle) back := by
  constructor
  · obtain ⟨first, rest, rfl⟩ := List.exists_cons_of_ne_nil nonempty
    intro _
    have notNewline := (inLine first List.mem_cons_self).2.1
    simp [notNewline]
  · intro returns
    rw [List.getLast?_append_of_ne_nil _ nonempty] at returns
    exact absurd rfl (inLine '\r' (List.mem_of_getLast? returns)).2.2

end Text

theorem Markup.inLine_trailingIdentifier (text : List Char) :
    Text.InLine (trailingIdentifier text) := by
  intro char member
  have allowed := isIdentifierChar_of_mem_trailingIdentifier member
  refine ⟨toNat_lt_of_isIdentifierChar allowed, ?_, ?_⟩
  · rintro rfl
    exact absurd allowed (by decide)
  · rintro rfl
    exact absurd allowed (by decide)

/-! ## Suggestions -/

/-- A suggestion replaces what was typed, whatever it describes. -/
theorem Descriptor.replaced_of_mem_suggestReached
    {context : MatchContext}
    {descriptors : List Descriptor}
    {suggestion : Suggestion}
    (member : suggestion ∈ suggestReached context descriptors) :
    suggestion.replaced = context.typed := by
  obtain ⟨descriptor, _, rfl⟩ := List.mem_map.mp member
  cases descriptor <;> rfl

namespace Completion

variable {request : CompletionRequest} {workspace : Workspace} {suggestion : Suggestion}

/-- The suggestion replaces the identifier that ends at the cursor, looked for
from some offset on. -/
def ReplacesTyped (request : CompletionRequest) (suggestion : Suggestion) : Prop :=
  ∃ start, suggestion.replaced =
    String.ofList (Markup.trailingIdentifier (request.since start))

theorem replacesTyped_of_mem_inExpression
    {start : Nat}
    {inString : Bool}
    (member : suggestion ∈ (inExpression request start inString workspace).1) :
    ReplacesTyped request suggestion := by
  simp only [inExpression] at member
  split at member
  · cases member
  · dsimp only at member
    exact ⟨start, Descriptor.replaced_of_mem_suggestReached member⟩

theorem replacesTyped_of_mem_ofTags
    {nameStart : Nat}
    {closing : Bool}
    (member : suggestion ∈ (ofTags request nameStart closing workspace).1) :
    ReplacesTyped request suggestion := by
  simp only [ofTags] at member
  split at member
  · cases member
  · dsimp only at member
    exact ⟨nameStart, Descriptor.replaced_of_mem_suggestReached member⟩

theorem replacesTyped_of_mem_ofAttributes
    {tagStart : Nat}
    {tagName : String}
    (member : suggestion ∈ (ofAttributes request tagStart tagName workspace).1) :
    ReplacesTyped request suggestion := by
  simp only [ofAttributes] at member
  split at member
  · cases member
  · split at member
    · cases member
    · split at member
      · cases member
      · dsimp only at member
        exact ⟨tagStart, Descriptor.replaced_of_mem_suggestReached member⟩

theorem replacesTyped_of_mem_ofValues
    {attributeName : String}
    {valueStart : Nat}
    (member : suggestion ∈ (ofValues request attributeName valueStart workspace).1) :
    ReplacesTyped request suggestion := by
  simp only [ofValues] at member
  split at member
  · cases member
  · split at member
    · cases member
    · dsimp only at member
      exact ⟨valueStart, Descriptor.replaced_of_mem_suggestReached member⟩

/-- In every context of the cursor, suggestions replace the identifier that
ends there. -/
theorem replacesTyped_of_mem_suggest
    (member : suggestion ∈ (suggest request workspace).1) :
    ReplacesTyped request suggestion := by
  unfold suggest at member
  split at member
  · exact replacesTyped_of_mem_inExpression member
  · exact replacesTyped_of_mem_ofTags member
  · exact replacesTyped_of_mem_ofAttributes member
  · exact replacesTyped_of_mem_ofValues member
  · cases member
  · cases member

/-- What is replaced stands directly in front of the cursor and lies on one
line. -/
theorem ReplacesTyped.exists_front
    (replaces : ReplacesTyped request suggestion) :
    (∃ front, request.beforeCursor = front ++ suggestion.replaced.toList) ∧
      Text.InLine suggestion.replaced.toList := by
  obtain ⟨start, replacedEq⟩ := replaces
  rw [replacedEq, String.toList_ofList]
  obtain ⟨front, frontEq⟩ :=
    (Markup.trailingIdentifier_suffix _).trans (Text.slice_suffix request.text start request.offset)
  exact ⟨⟨front, frontEq.symm⟩, Markup.inLine_trailingIdentifier _⟩

end Completion

/-! ## Items -/

namespace CompletionItem

theorem exists_suggestion_of_mem
    {content : List Char}
    {offset : Nat}
    {suggestions : List Suggestion}
    {item : CompletionItem}
    (member : item ∈ ofSuggestions content offset suggestions) :
    ∃ suggestion ∈ suggestions, ∃ index,
      item = ofSuggestion (replacedRange content offset suggestion) index suggestion := by
  obtain ⟨⟨suggestion, index⟩, listed, rfl⟩ := List.mem_map.mp member
  exact ⟨suggestion, List.fst_mem_of_mem_zipIdx listed, index, rfl⟩

/-- The range covers exactly some text of a document. -/
structure Covers (content : List Char) (range : Text.Range) (front typed : List Char) : Prop where
  /-- Both ends lie on one line. -/
  oneLine : range.start.line = range.stop.line
  /-- It is as many code units wide as the text has bytes. -/
  width : range.stop.character = range.start.character + Text.size typed
  /-- It starts where the text starts, if there is any. -/
  start : typed ≠ [] → Text.offsetOf content range.start = Text.size front
  /-- It stops where the text stops, if there is any. -/
  stop : typed ≠ [] → Text.offsetOf content range.stop = Text.size front + Text.size typed

/-- A suggestion that replaces text of one line in front of the cursor covers
that text. -/
theorem covers_replacedRange
    {suggestion : Suggestion}
    (inLine : Text.InLine suggestion.replaced.toList)
    {content front back : List Char}
    (contentEq : front ++ suggestion.replaced.toList ++ back = content)
    {cursor : Nat}
    (cursorEq : cursor = Text.size front + Text.size suggestion.replaced.toList) :
    Covers content (replacedRange content cursor suggestion) front
      suggestion.replaced.toList := by
  subst contentEq cursorEq
  have stopAt := inLine.positionOf_append front back
  rw [replacedRange, Nat.add_sub_cancel]
  exact
    { oneLine := by rw [stopAt]
      width := by rw [stopAt]
      start := by
        intro nonempty
        rw [List.append_assoc]
        exact Text.offsetOf_positionOf (inLine.marksColumn nonempty front back).1
      stop := by
        intro nonempty
        rw [← Text.size_append]
        exact Text.offsetOf_positionOf (inLine.marksColumn nonempty front back).2 }

end CompletionItem

namespace Session

/-- At every position of every text, in every session, and whether asked for by
the user or not, each item belongs to a suggestion and its edit covers exactly
what the suggestion replaces.  That is the text which ends at the cursor; the
edit lies on one line, and is as many code units wide as the replaced text has
bytes; and if there is any, the byte offsets of the edit's ends are those of
the replaced text. -/
theorem items_edit_what_was_typed
    (session : Session)
    (uri : Uri)
    (text : String)
    (position : Text.Position)
    (manual : Bool) :
    let content := text.toList
    let cursor := Text.offsetOf content position
    let request := CompletionRequest.make content cursor
      (uri.filePath?.map PathName.path) manual session.settings.minimumWordLength
    ∀ item ∈ (session.itemsAt uri text position manual).1,
      ∃ suggestion ∈ (Completion.suggest request session.workspace).1,
        let range := item.edit.range
        let typed := suggestion.replaced.toList
        (∃ index, item = CompletionItem.ofSuggestion range index suggestion) ∧
        (∃ front back, content = front ++ typed ++ back ∧
          Text.size front + Text.size typed = cursor) ∧
        range.start.line = range.stop.line ∧
        range.stop.character = range.start.character + Text.size typed ∧
        (typed ≠ [] →
          Text.offsetOf content range.start = cursor - Text.size typed ∧
          Text.offsetOf content range.stop = cursor ∧
          Text.slice content (Text.offsetOf content range.start)
            (Text.offsetOf content range.stop) = typed) := by
  intro content cursor request item member
  obtain ⟨whole, ⟨back, contentEq⟩, cursorEq⟩ :
      ∃ front, front <+: content ∧ cursor = Text.size front :=
    Text.exists_offsetAt_eq position.line position.character content
  have atBorder : Text.before cursor content = whole := by
    rw [cursorEq, ← contentEq, Text.before_size_append]
  have offsetEq : request.offset = cursor := by
    change Text.size (Text.before cursor content) = cursor
    rw [atBorder, cursorEq]
  obtain ⟨suggestion, suggested, index, rfl⟩ :
      ∃ suggestion ∈ (Completion.suggest request session.workspace).1, ∃ index,
        item = CompletionItem.ofSuggestion
          (CompletionItem.replacedRange content cursor suggestion) index suggestion := by
    rw [← offsetEq]
    exact CompletionItem.exists_suggestion_of_mem member
  obtain ⟨⟨front, frontEq⟩, inLine⟩ :=
    (Completion.replacesTyped_of_mem_suggest suggested).exists_front
  have wholeEq : whole = front ++ suggestion.replaced.toList := by
    rw [← frontEq, CompletionRequest.beforeCursor, offsetEq]
    exact atBorder.symm
  rw [wholeEq, Text.size_append] at cursorEq
  rw [wholeEq] at contentEq
  have covers := CompletionItem.covers_replacedRange inLine contentEq cursorEq
  refine ⟨suggestion, suggested, ⟨index, rfl⟩, ⟨front, back, contentEq.symm, cursorEq.symm⟩,
    covers.oneLine, covers.width, ?_⟩
  intro nonempty
  simp only [CompletionItem.ofSuggestion, covers.start nonempty, covers.stop nonempty]
  refine ⟨?_, cursorEq.symm, ?_⟩
  · rw [cursorEq, Nat.add_sub_cancel]
  · rw [← contentEq, Text.slice_size_append]

/-- A session that knows one variable. -/
def sampleSession : Session :=
  let element : Descriptor :=
    .var { name := ⟨"param", by decide⟩, typeName := "Map", description := "" }
  { workspace := { registry := (Registry.add {} 0 element).2 } }

/-- A document that is not stored. -/
def sampleUri : Uri :=
  { scheme := "untitled", authority := none, path := .whole "a", query := none
    fragment := none }

/-- An attribute value below a line with a character of two bytes. -/
def sampleText : String :=
  "é\r\n<c:set var=\"par"

/-- At the end of the text the variable is offered, and its edit covers what was
typed of it. -/
theorem sampleSession_edits_what_was_typed :
    ∃ item ∈ (sampleSession.itemsAt sampleUri sampleText ⟨1, 15⟩ true).1,
      Text.offsetOf sampleText.toList item.edit.range.start = 16 ∧
      Text.offsetOf sampleText.toList item.edit.range.stop = 19 ∧
      Text.slice sampleText.toList (Text.offsetOf sampleText.toList item.edit.range.start)
        (Text.offsetOf sampleText.toList item.edit.range.stop) = ['p', 'a', 'r'] := by
  have some_item : (sampleSession.itemsAt sampleUri sampleText ⟨1, 15⟩ true).1 ≠ [] := by
    decide
  obtain ⟨item, member⟩ := List.exists_mem_of_ne_nil _ some_item
  obtain ⟨suggestion, suggested, _, _, _, _, covers⟩ :=
    items_edit_what_was_typed sampleSession sampleUri sampleText ⟨1, 15⟩ true item member
  have replaces : ∀ other ∈ (Completion.suggest
      (CompletionRequest.make sampleText.toList 19 none true 3) sampleSession.workspace).1,
      other.replaced.toList = ['p', 'a', 'r'] := by
    decide
  have typed := replaces suggestion suggested
  rw [typed] at covers
  exact ⟨item, member, covers (List.cons_ne_nil _ _)⟩

end Session
end JspCompletion
