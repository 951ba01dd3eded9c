import JspCompletion.Proofs.Completion.Edit
import JspCompletion.Proofs.Markup.Written
import JspCompletion.Proofs.Text.Position

/-!
# Attributes between the attributes of a tag

Between the attributes of a tag those that are already written are left out.
The main result says which those are: the ones in double quotes, on both sides
of the cursor, whatever brackets their values hold.  An attribute in single
quotes is offered again, and so is the one that begins at the cursor, since its
name is taken for the rest of the word under the cursor.
-/

namespace JspCompletion
namespace Markup

/-! ## The identifier in front of the cursor -/

/-- An identifier behind something else is found whole. -/
theorem trailingIdentifier_append
    {head typed : List Char}
    (stops : ∀ char ∈ head.getLast?, isIdentifierChar char = false)
    (identifier : trailingIdentifier typed = typed) :
    trailingIdentifier (head ++ typed) = typed := by
  have allowed : ∀ char ∈ typed.reverse, isIdentifierChar char = true := by
    intro char member
    rw [List.mem_reverse, ← identifier] at member
    exact isIdentifierChar_of_mem_trailingIdentifier member
  have stopsReverse : ∀ char ∈ head.reverse.head?, isIdentifierChar char = false := by
    rwa [List.head?_reverse]
  have taken : (head ++ typed).reverse.takeWhile isIdentifierChar = typed.reverse := by
    rw [List.reverse_append]
    exact Text.takeWhile_append_of_stop allowed stopsReverse
  have takenAlone : typed.reverse.takeWhile isIdentifierChar = typed.reverse :=
    List.takeWhile_eq_self_iff.mpr allowed
  rw [trailingIdentifier, takenAlone] at identifier
  rw [trailingIdentifier, taken, identifier]

/-! ## The rest of the tag behind the cursor -/

theorem not_mem_of_class
    {belongs : Char → Bool}
    {others : List Char}
    (foreign : others.any belongs = false)
    {char : Char}
    (inClass : belongs char = true) :
    char ∉ others :=
  fun member => List.any_eq_false.mp foreign char member inClass

/-- Characters that are neither brackets nor quotes are passed over. -/
theorem splitAtBracket_append_of_plain
    {front : List Char}
    (plain : ∀ char ∈ front, char ∉ ['<', '>', '"', '\''])
    (rest : List Char) :
    splitAtBracket none (front ++ rest) =
      (front ++ (splitAtBracket none rest).1, (splitAtBracket none rest).2) := by
  induction front with
  | nil => rfl
  | cons char front inductionHypothesis =>
      have here := plain char List.mem_cons_self
      simp only [List.mem_cons, List.not_mem_nil, or_false, not_or] at here
      have later := inductionHypothesis fun other member =>
        plain other (List.mem_cons_of_mem char member)
      simp [splitAtBracket, here, later]

/-- Brackets in a quoted value are passed over. -/
theorem splitAtBracket_append_quote
    (quote : Grammar.Quote)
    {value : List Char}
    (unquoted : quote.char ∉ value)
    (rest : List Char) :
    splitAtBracket (some quote.char) (value ++ quote.char :: rest) =
      (value ++ quote.char :: (splitAtBracket none rest).1, (splitAtBracket none rest).2) := by
  induction value with
  | nil => simp [splitAtBracket]
  | cons char value inductionHypothesis =>
      rw [List.mem_cons, not_or] at unquoted
      have inside : (char == quote.char) = false := by simpa using Ne.symm unquoted.1
      simp [splitAtBracket, inside, inductionHypothesis unquoted.2]

namespace WrittenAttribute

theorem splitAtBracket_chars_append
    (written : WrittenAttribute)
    (rest : List Char) :
    splitAtBracket none (written.chars ++ rest) =
      (written.chars ++ (splitAtBracket none rest).1, (splitAtBracket none rest).2) := by
  have plain : ∀ char ∈ written.name.chars ++ ['='], char ∉ ['<', '>', '"', '\''] := by
    intro char member
    rcases List.mem_append.mp member with inName | isSign
    · exact not_mem_of_class (by decide) (written.name.isNameRest_of_mem inName)
    · rw [List.mem_singleton.mp isSign]
      decide
  have opens (behind : List Char) : splitAtBracket none (written.quote.char :: behind) =
      (written.quote.char :: (splitAtBracket (some written.quote.char) behind).1,
        (splitAtBracket (some written.quote.char) behind).2) := by
    cases written.quote <;> rfl
  have split : written.chars ++ rest = (written.name.chars ++ ['=']) ++
      written.quote.char :: (written.value ++ written.quote.char :: rest) := by
    simp [chars]
  rw [split, splitAtBracket_append_of_plain plain, opens,
    splitAtBracket_append_quote written.quote written.unquoted]
  simp [chars]

/-- The end of a tag is looked for behind its attributes. -/
theorem splitAtBracket_line_append
    (written : List (Grammar.Space × WrittenAttribute))
    (rest : List Char) :
    splitAtBracket none (line written ++ rest) =
      (line written ++ (splitAtBracket none rest).1, (splitAtBracket none rest).2) := by
  induction written with
  | nil => rfl
  | cons item written inductionHypothesis =>
      have plain : ∀ char ∈ item.1.chars, char ∉ ['<', '>', '"', '\''] :=
        fun char member => not_mem_of_class (by decide) (item.1.isMarkupSpace_of_mem member)
      have split : line (item :: written) ++ rest =
          item.1.chars ++ (item.2.chars ++ (line written ++ rest)) := by
        simp [line]
      rw [split, splitAtBracket_append_of_plain plain, splitAtBracket_chars_append,
        inductionHypothesis]
      simp [line]

end WrittenAttribute
end Markup

/-- The label of an attribute is its name. -/
theorem TagAttribute.label_suggestion (attr : TagAttribute) (context : MatchContext) :
    (attr.suggestion context).label = attr.name.text := by
  simp [suggestion, Suggestion.label, unlessEmpty, attr.name.nonempty]

namespace Completion

open Markup (WrittenAttribute)

/-! ## Tags with the cursor inside -/

/-- A start tag with the cursor between its attributes, behind white space. -/
structure OpenTag where
  /-- The namespace of the tag. -/
  space : List Char
  uncoloned : ':' ∉ space
  /-- The name behind it. -/
  localName : List Char
  named : ∀ char ∈ space ++ localName, Markup.Attribute.isNameRest char = true
  /-- The attributes in front of the cursor. -/
  before : List (Markup.Grammar.Space × WrittenAttribute)
  /-- The white space behind them. -/
  gap : Markup.Grammar.Space
  /-- What was typed of a further attribute. -/
  typed : List Char
  identifier : Markup.trailingIdentifier typed = typed
  /-- The attributes behind the cursor. -/
  after : List (Markup.Grammar.Space × WrittenAttribute)
  /-- The white space behind them. -/
  ending : Markup.Grammar.Gap
  /-- The tag closes itself. -/
  slash : Bool
  /-- Single quotes hide no double quotes. -/
  plain : ∀ item ∈ before ++ after, '"' ∉ item.2.value

namespace OpenTag

/-- The name of the tag with its namespace. -/
def word (tag : OpenTag) : List Char :=
  tag.space ++ ':' :: tag.localName

/-- The tag up to what was typed. -/
def head (tag : OpenTag) : List Char :=
  '<' :: (tag.word ++ (WrittenAttribute.line tag.before ++ tag.gap.chars))

/-- The tag from the cursor to its closing bracket. -/
def tail (tag : OpenTag) : List Char :=
  WrittenAttribute.line tag.after ++ (tag.ending.chars ++ if tag.slash then ['/'] else [])

/-- The attributes in double quotes, on both sides of the cursor. -/
def doubleQuoted (tag : OpenTag) : List Markup.Attribute :=
  WrittenAttribute.readAll tag.before ++ WrittenAttribute.readAll tag.after

/-- An attribute of the name is written in double quotes, in front of the cursor
or behind it. -/
def Writes (tag : OpenTag) (name : String) : Prop :=
  ∃ item ∈ tag.before ++ tag.after,
    item.2.quote = .double ∧ String.ofList item.2.name.chars = name

instance (tag : OpenTag) : DecidablePred tag.Writes := fun name =>
  inferInstanceAs (Decidable (∃ item ∈ tag.before ++ tag.after,
    item.2.quote = .double ∧ String.ofList item.2.name.chars = name))

/-- The cursor of a request stands in the tag, with any text in front of it and
behind it. -/
structure At (tag : OpenTag) (request : CompletionRequest) (front back : List Char) : Prop where
  text : request.text = front ++ (tag.head ++ tag.typed) ++ (tag.tail ++ '>' :: back)
  offset : request.offset = Text.size front + Text.size (tag.head ++ tag.typed)

namespace At

variable {tag : OpenTag} {request : CompletionRequest} {front back : List Char}

theorem since_eq
    (located : tag.At request front back) :
    request.since (Text.size front) = tag.head ++ tag.typed := by
  rw [CompletionRequest.since, located.text, located.offset, Text.slice_size_append]

theorem afterCursor_eq
    (located : tag.At request front back) :
    request.afterCursor = tag.tail ++ '>' :: back := by
  rw [CompletionRequest.afterCursor, located.text, located.offset, ← Text.size_append,
    Text.after_size_append]

end At

/-! ## What the parts of the tag give -/

/-- In front of what was typed there is white space. -/
theorem getLast?_head (tag : OpenTag) :
    ∃ char, tag.head.getLast? = some char ∧ Text.isMarkupSpace char = true := by
  obtain ⟨shorter, char, gapEq⟩ :=
    tag.gap.chars.eq_nil_or_concat.resolve_left (by simp [Markup.Grammar.Space.chars])
  refine ⟨char, ?_, tag.gap.isMarkupSpace_of_mem (by simp [gapEq])⟩
  have split : tag.head =
      '<' :: (tag.word ++ (WrittenAttribute.line tag.before ++ shorter)) ++ [char] := by
    simp [head, gapEq]
  rw [split, List.getLast?_concat]

theorem trailingIdentifier_head_typed (tag : OpenTag) :
    Markup.trailingIdentifier (tag.head ++ tag.typed) = tag.typed := by
  apply Markup.trailingIdentifier_append _ tag.identifier
  obtain ⟨last, lastEq, blank⟩ := tag.getLast?_head
  intro char isLast
  obtain rfl : last = char := Option.some.inj (lastEq.symm.trans isLast)
  exact Markup.eq_of_isMarkupSpace blank (by decide)

theorem isNameRest_word (tag : OpenTag) :
    ∀ char ∈ tag.word, Markup.Attribute.isNameRest char = true :=
  Markup.forall_mem_qualified rfl tag.named

theorem attributes_head (tag : OpenTag) :
    Markup.attributes tag.head = WrittenAttribute.readAll tag.before := by
  have blank : ∀ char ∈ tag.gap.chars, Text.isMarkupSpace char = true :=
    fun char member => tag.gap.isMarkupSpace_of_mem member
  have ends : ∀ char ∈ tag.gap.chars.head?, Markup.Attribute.isNameRest char = false := by
    rintro char ⟨⟩
    exact Markup.Attribute.isNameRest_of_isBlank (Markup.isBlank_of_isMarkupSpace tag.gap.blank)
  have trimmed : Text.trimStart tag.gap.chars = [] :=
    List.dropWhile_eq_nil_iff.mpr fun char member =>
      Markup.isBlank_of_isMarkupSpace (blank char member)
  have unsigned : (Text.trimStart tag.gap.chars).head? ≠ some '=' := by simp [trimmed]
  have silent : Markup.attributes tag.gap.chars = [] := by
    rw [← List.append_nil tag.gap.chars,
      Markup.Attribute.attributes_append_of_isMarkupSpace blank]
    rfl
  have plain (item) (member : item ∈ tag.before) : '"' ∉ item.2.value :=
    tag.plain item (List.mem_append_left _ member)
  rw [head, WrittenAttribute.attributes_tag_append tag.isNameRest_word plain ends unsigned,
    silent, List.append_nil]

theorem attributes_tail (tag : OpenTag) :
    Markup.attributes tag.tail = WrittenAttribute.readAll tag.after := by
  have silent : Markup.attributes (tag.ending.chars ++ if tag.slash then ['/'] else []) = [] := by
    rw [Markup.Attribute.attributes_append_of_isMarkupSpace tag.ending.blank]
    cases tag.slash <;> rfl
  have plain (item) (member : item ∈ tag.after) : '"' ∉ item.2.value :=
    tag.plain item (List.mem_append_right _ member)
  rw [tail, WrittenAttribute.attributes_line_append plain, silent, List.append_nil]

/-- The cursor does not stand in a name. -/
theorem not_isNameChar_head (tag : OpenTag) {back : List Char} :
    ∀ char ∈ (tag.tail ++ '>' :: back).head?, Markup.Cursor.isNameChar char = false := by
  have ofBlank {char : Char} (blank : Text.isMarkupSpace char = true) :
      Markup.Cursor.isNameChar char = false :=
    Markup.eq_of_isMarkupSpace blank (by decide)
  intro char first
  obtain ⟨_, _, _, _, _, _, _, _, attributes, ⟨gap, blank⟩, slash, _⟩ := tag
  cases attributes with
  | cons item attributes =>
      cases first
      exact ofBlank item.1.blank
  | nil =>
      cases gap with
      | cons head gap =>
          cases first
          exact ofBlank (blank char List.mem_cons_self)
      | nil => cases slash <;> cases first <;> rfl

/-- The rest of the tag is all that is looked at behind the cursor. -/
theorem tagTail_tail_append (tag : OpenTag) (back : List Char) :
    Markup.tagTail (tag.tail ++ '>' :: back) = tag.tail := by
  have noName : Markup.afterName (tag.tail ++ '>' :: back) = tag.tail ++ '>' :: back :=
    Text.dropWhile_append_of_stop (List.forall_mem_nil _) tag.not_isNameChar_head
  have plain : ∀ char ∈ tag.ending.chars ++ (if tag.slash then ['/'] else []),
      char ∉ ['<', '>', '"', '\''] := by
    intro char member
    rcases List.mem_append.mp member with inGap | inSlash
    · exact Markup.not_mem_of_class (by decide) (tag.ending.blank char inGap)
    · cases slash : tag.slash <;> simp [slash] at inSlash
      subst inSlash
      decide
  have closed : Markup.splitAtBracket none ('>' :: back) = ([], '>' :: back) := rfl
  rw [Markup.tagTail, noName, tail, List.append_assoc,
    WrittenAttribute.splitAtBracket_line_append, Markup.splitAtBracket_append_of_plain plain,
    closed, List.append_nil]

theorem any_doubleQuoted (tag : OpenTag) (name : String) :
    (tag.doubleQuoted.any fun attr => attr.name == name) = decide (tag.Writes name) := by
  rw [doubleQuoted, WrittenAttribute.readAll, WrittenAttribute.readAll, ← List.map_append,
    ← List.filter_append, List.any_map, List.any_filter, Bool.eq_iff_iff, List.any_eq_true,
    decide_eq_true_eq, Writes]
  simp [WrittenAttribute.read]

theorem splitName?_word (tag : OpenTag) :
    splitName? tag.word = some (tag.space, tag.localName) := by
  simp only [splitName?, word, Text.dropWhile_append_mark tag.uncoloned,
    Text.takeWhile_append_mark tag.uncoloned]

end OpenTag

/-! ## What is offered -/

section Offered

variable {tag : OpenTag} {request : CompletionRequest} {front back : List Char}
variable {workspace : Workspace} {described : LibraryTag}

/-- The libraries that are in scope at the cursor. -/
def inScope (request : CompletionRequest) (workspace : Workspace) : List DeclaredLibrary :=
  (workspace.declaredLibraries request.beforeCursor request.file).1

/-- What the attributes of the tag are matched with. -/
def OpenTag.context
    (tag : OpenTag)
    (request : CompletionRequest)
    (workspace : Workspace) : MatchContext where
  typed := String.ofList tag.typed
  declared := inScope request workspace
  enclosing := some (String.ofList tag.space)

/-- An attribute counts as written if it stands in double quotes. -/
theorem ofAttributes_openTag
    (located : tag.At request front back)
    (isDeclared : findTag? (inScope request workspace) (String.ofList tag.space)
      (String.ofList tag.localName) = some described) :
    (ofAttributes request (Text.size front) (String.ofList tag.word) workspace).1 =
      if request.accepts tag.typed then
        Descriptor.suggestReached (tag.context request workspace)
          (missingAttributes described tag.doubleQuoted)
      else
        [] := by
  obtain ⟨last, lastEq, blank⟩ := tag.getLast?_head
  have headEq : (tag.head ++ tag.typed).take
      ((tag.head ++ tag.typed).length - tag.typed.length) = tag.head := by
    simp
  have inTag : (!tag.head.getLast?.any Text.isMarkupSpace) = false := by simp [lastEq, blank]
  have written : Markup.attributes tag.head ++
      Markup.attributes (Markup.tagTail request.afterCursor) = tag.doubleQuoted := by
    rw [located.afterCursor_eq, tag.tagTail_tail_append, tag.attributes_head,
      tag.attributes_tail, OpenTag.doubleQuoted]
  rw [inScope] at isDeclared
  simp only [ofAttributes, located.since_eq, tag.trailingIdentifier_head_typed, headEq, inTag,
    Bool.false_or, String.toList_ofList, tag.splitName?_word, isDeclared, written]
  cases request.accepts tag.typed <;> rfl

/-- Between the attributes of a declared tag no suggestion names one that is
written in double quotes, and all others that are reached by what was typed are
suggested, in the order of the description, if completion is asked for. -/
theorem unwritten_attributes_are_offered
    (located : tag.At request front back)
    (isDeclared : findTag? (inScope request workspace) (String.ofList tag.space)
      (String.ofList tag.localName) = some described) :
    let context := tag.context request workspace
    let offered := (ofAttributes request (Text.size front) (String.ofList tag.word) workspace).1
    (∀ suggestion ∈ offered, ¬ tag.Writes suggestion.label) ∧
      (request.accepts tag.typed = true →
        offered = (described.attributes.filter fun attr =>
          ¬ tag.Writes attr.name.text ∧ attr.name.isReachedBy context.needle).map
            (·.suggestion context)) := by
  intro context offered
  have offeredEq (accepted : request.accepts tag.typed = true) :
      offered = (described.attributes.filter fun attr =>
        ¬ tag.Writes attr.name.text ∧ attr.name.isReachedBy context.needle).map
          (·.suggestion context) := by
    calc offered
        = Descriptor.suggestReached context (missingAttributes described tag.doubleQuoted) := by
          exact (ofAttributes_openTag located isDeclared).trans (if_pos accepted)
      _ = _ := by
          simp only [Descriptor.suggestReached, missingAttributes, List.filter_map, List.map_map,
            List.filter_filter, tag.any_doubleQuoted]
          congr 1
          apply List.filter_congr
          intro attr _
          simp [Descriptor.isReached, Descriptor.name, Bool.and_comm]
  refine ⟨?_, offeredEq⟩
  intro suggestion member
  by_cases accepted : request.accepts tag.typed = true
  · rw [offeredEq accepted] at member
    obtain ⟨attr, isOffered, rfl⟩ := List.mem_map.mp member
    rw [TagAttribute.label_suggestion]
    have kept := (List.mem_filter.mp isOffered).2
    exact (of_decide_eq_true kept).1
  · have nothing : offered = [] :=
      (ofAttributes_openTag located isDeclared).trans (if_neg accepted)
    rw [nothing] at member
    cases member

end Offered

/-- An optional attribute. -/
def sampleAttribute (name : Name) : TagAttribute :=
  { name, tagName := "show", description := "", typeName := "", required := false, dynamic := true }

/-- A tag with three attributes. -/
def sampleTag : LibraryTag :=
  { name := ⟨"show", by decide⟩
    uri := "u"
    className := ""
    description := ""
    content := ""
    attributes :=
      [sampleAttribute ⟨"text", by decide⟩, sampleAttribute ⟨"scope", by decide⟩,
        sampleAttribute ⟨"escape", by decide⟩] }

/-- The library of the tag. -/
def sampleLibrary : TagLibrary :=
  { name := ⟨"t", by decide⟩
    uri := "u"
    fullName := ""
    description := ""
    functions := []
    tags := [sampleTag] }

/-- A workspace that knows the library. -/
def sampleWorkspace : Workspace :=
  { registry := (Registry.importLibrary {} 0 sampleLibrary).2 }

/-- The declaration of the library. -/
def sampleFront : List Char :=
  "<%@ taglib prefix=\"a\" uri=\"u\" %>".toList

/-- `<a:show text="a > b" e|  scope="page">`, with the cursor at the bar. -/
def sampleOpenTag : OpenTag where
  space := ['a']
  uncoloned := by decide
  localName := "show".toList
  named := List.all_eq_true.mp (by decide)
  before := [(.single, .of .double "text".toList "a > b".toList (by decide) (by decide))]
  gap := .single
  typed := ['e']
  identifier := by decide
  after := [(.single, .of .double "scope".toList "page".toList (by decide) (by decide))]
  ending := .none
  slash := false
  plain := by decide

/-- One attribute is left to be offered. -/
theorem escape_is_offered :
    let request : CompletionRequest :=
      { text := sampleFront ++ (sampleOpenTag.head ++ ['e']) ++ (sampleOpenTag.tail ++ ['>'])
        offset := Text.size sampleFront + Text.size (sampleOpenTag.head ++ ['e'])
        manual := true }
    findTag? (inScope request sampleWorkspace) "a" "show" = some sampleTag ∧
      (ofAttributes request (Text.size sampleFront) "a:show" sampleWorkspace).1.map (·.label) =
        ["escape"] := by
  intro request
  have located : sampleOpenTag.At request sampleFront [] := ⟨rfl, rfl⟩
  have isDeclared : findTag? (inScope request sampleWorkspace) "a" "show" = some sampleTag := by
    decide +kernel
  have word : String.ofList sampleOpenTag.word = "a:show" := rfl
  have offered := (unwritten_attributes_are_offered located isDeclared).2 rfl
  rw [word] at offered
  rw [offered]
  exact ⟨isDeclared, by decide +kernel⟩

/-- An attribute in single quotes is offered again, and so is one that begins at
the cursor. -/
theorem written_attributes_are_offered :
    let labels (tag : String) : List String :=
      (suggest { text := sampleFront ++ tag.toList, offset := 49, manual := true }
        sampleWorkspace).1.map (·.label)
    labels "<a:show text='1'  scope=\"2\">" = ["text", "escape"] ∧
      labels "<a:show text=\"1\" scope=\"2\">" = ["scope", "escape"] := by
  decide +kernel

end Completion
end JspCompletion
