import JspCompletion.Proofs.Markup.Directive
import JspCompletion.Proofs.Markup.Reading

/-!
# Attributes written in a tag

An attribute of a tag has a name and a value in double or in single quotes.  A
search for attributes in a text reads back those in double quotes, in order,
and passes over the others, as long as no value holds a double quote.
-/

namespace JspCompletion
namespace Markup

theorem Attribute.isNameRest_of_isNameStart
    {char : Char}
    (starts : Attribute.isNameStart char = true) :
    Attribute.isNameRest char = true := by
  by_contra other
  rw [isNameStart_of_isNameRest (Bool.not_eq_true _ ▸ other)] at starts
  cases starts

/-- The name of an attribute. -/
structure AttributeName where
  first : Char
  starts : Attribute.isNameStart first = true
  others : List Char
  allowed : ∀ char ∈ others, Attribute.isNameRest char = true

/-- The characters of a name. -/
def AttributeName.chars (name : AttributeName) : List Char :=
  name.first :: name.others

/-- An attribute with a quoted value. -/
structure WrittenAttribute where
  /-- The name. -/
  name : AttributeName
  /-- The quotes around the value. -/
  quote : Grammar.Quote
  /-- The characters between the quotes. -/
  value : List Char
  unquoted : quote.char ∉ value

theorem Grammar.blank_nil : ∀ char ∈ ([] : List Char), Text.isMarkupSpace char = true :=
  List.forall_mem_nil _

/-- No white space. -/
def Grammar.Gap.none : Grammar.Gap where
  chars := []
  blank := blank_nil

/-- One space. -/
def Grammar.Space.single : Grammar.Space where
  first := ' '
  blank := rfl
  others := .none

namespace WrittenAttribute

/-- An attribute whose name consists of characters that start a name. -/
def of
    (quote : Grammar.Quote)
    (name value : List Char)
    (named : name ≠ [] ∧ name.all Attribute.isNameStart = true)
    (unquoted : quote.char ∉ value) : WrittenAttribute where
  name :=
    { first := name.head named.1
      starts := List.all_eq_true.mp named.2 _ (List.head_mem named.1)
      others := name.tail
      allowed := fun char member =>
        Attribute.isNameRest_of_isNameStart
          (List.all_eq_true.mp named.2 char (List.mem_of_mem_tail member)) }
  quote := quote
  value := value
  unquoted := unquoted

/-- The text of an attribute. -/
def chars (written : WrittenAttribute) : List Char :=
  written.name.chars ++ '=' :: written.quote.char :: (written.value ++ [written.quote.char])

/-- The attribute as it is read. -/
def read (written : WrittenAttribute) : Attribute :=
  { name := String.ofList written.name.chars, value := String.ofList written.value }

/-- The text of attributes, each behind white space. -/
def line (attributes : List (Grammar.Space × WrittenAttribute)) : List Char :=
  attributes.flatMap fun item => item.1.chars ++ item.2.chars

/-- The attributes in double quotes, as they are read. -/
def readAll (attributes : List (Grammar.Space × WrittenAttribute)) : List Attribute :=
  (attributes.filter fun item => item.2.quote = .double).map (·.2.read)

end WrittenAttribute

/-! ## Classes of characters -/

/-- Where a namespace and a name belong to a class, they do so with a colon
between them. -/
theorem forall_mem_qualified
    {test : Char → Bool}
    {space name : List Char}
    (colon : test ':' = true)
    (named : ∀ char ∈ space ++ name, test char = true) :
    ∀ char ∈ space ++ ':' :: name, test char = true := by
  intro char member
  rcases List.mem_append.mp member with inSpace | behind
  · exact named char (List.mem_append_left _ inSpace)
  · rcases List.mem_cons.mp behind with rfl | inName
    · exact colon
    · exact named char (List.mem_append_right _ inName)

/-- What a test says of the five characters of white space it says of all. -/
theorem eq_of_isMarkupSpace
    {test : Char → Bool}
    {value : Bool}
    {char : Char}
    (space : Text.isMarkupSpace char = true)
    (alike : [' ', '\t', '\n', '\x0c', '\r'].all (test · == value) = true) :
    test char = value := by
  have member : char ∈ [' ', '\t', '\n', '\x0c', '\r'] := by
    simpa [Text.isMarkupSpace, or_assoc] using space
  exact eq_of_beq (List.all_eq_true.mp alike char member)

theorem isBlank_of_isMarkupSpace
    {char : Char}
    (space : Text.isMarkupSpace char = true) :
    Text.isBlank char = true :=
  eq_of_isMarkupSpace space (by decide)

theorem AttributeName.isNameRest_of_mem
    (name : AttributeName)
    {char : Char}
    (member : char ∈ name.chars) :
    Attribute.isNameRest char = true := by
  rcases List.mem_cons.mp member with rfl | other
  · exact Attribute.isNameRest_of_isNameStart name.starts
  · exact name.allowed char other

/-- A character that no name holds is missing in every name. -/
theorem AttributeName.not_mem
    (name : AttributeName)
    {char : Char}
    (foreign : Attribute.isNameRest char = false) :
    char ∉ name.chars :=
  fun member => Grammar.ne_of_class (name.isNameRest_of_mem member) foreign rfl

theorem Grammar.Space.isMarkupSpace_of_mem
    (space : Grammar.Space)
    {char : Char}
    (member : char ∈ space.chars) :
    Text.isMarkupSpace char = true := by
  rcases List.mem_cons.mp member with rfl | other
  · exact space.blank
  · exact space.others.blank char other

theorem Grammar.Gap.not_mem
    (gap : Grammar.Gap)
    {char : Char}
    (noSpace : Text.isMarkupSpace char = false) :
    char ∉ gap.chars :=
  fun member => Grammar.ne_of_class (gap.blank char member) noSpace rfl

theorem Grammar.Space.not_mem
    (space : Grammar.Space)
    {char : Char}
    (noSpace : Text.isMarkupSpace char = false) :
    char ∉ space.chars :=
  fun member => Grammar.ne_of_class (space.isMarkupSpace_of_mem member) noSpace rfl

/-- A character that is missing in the values and has no part in writing
attributes down is missing in their text. -/
theorem WrittenAttribute.not_mem_line
    {written : List (Grammar.Space × WrittenAttribute)}
    {char : Char}
    (noSpace : Text.isMarkupSpace char = false)
    (noName : Attribute.isNameRest char = false)
    (noSign : char ∉ ['=', '"', '\''])
    (absent : ∀ item ∈ written, char ∉ item.2.value) :
    char ∉ WrittenAttribute.line written := by
  simp only [List.mem_cons, List.not_mem_nil, or_false, not_or] at noSign
  intro member
  obtain ⟨item, isItem, inItem⟩ := List.mem_flatMap.mp member
  rcases List.mem_append.mp inItem with inSpace | inAttribute
  · exact item.1.not_mem noSpace inSpace
  · have noQuote : char ≠ item.2.quote.char := by
      cases item.2.quote
      · exact noSign.2.2
      · exact noSign.2.1
    simp [chars, item.2.name.not_mem noName, noSign.1, noQuote, absent item isItem] at inAttribute

/-! ## What is passed over -/

namespace Attribute

theorem not_isNameStart_of_isMarkupSpace
    {char : Char}
    (space : Text.isMarkupSpace char = true) :
    isNameStart char = false :=
  isNameStart_of_isNameRest (isNameRest_of_isBlank (isBlank_of_isMarkupSpace space))

/-- In front of its first quote an attribute has names, blank characters and a
sign. -/
theorem exists_lead
    {text tail : List Char}
    {found : Attribute}
    (recognized : recognize? text = some (found, tail)) :
    ∃ lead behind, text = lead ++ '"' :: behind ∧ '"' ∉ lead ∧ '\'' ∉ lead := by
  cases text with
  | nil => cases recognized
  | cons first rest =>
      simp only [recognize?] at recognized
      split at recognized
      · rename_i starts
        simp only [Option.bind_eq_bind, Option.bind_eq_some_iff] at recognized
        obtain ⟨signed, sign, ⟨value, behind⟩, quoted, _⟩ := recognized
        rw [Text.after?_eq_some_iff] at sign
        obtain ⟨_, opened⟩ := Text.quoted?_eq_some_iff.mp quoted
        have named : rest = rest.takeWhile isNameRest ++ rest.dropWhile isNameRest :=
          List.takeWhile_append_dropWhile.symm
        have spaced : rest.dropWhile isNameRest =
            (rest.dropWhile isNameRest).takeWhile Text.isBlank ++ '=' :: signed := by
          rw [← List.singleton_append, ← sign, Text.trimStart, List.takeWhile_append_dropWhile]
        have valued : signed =
            signed.takeWhile Text.isBlank ++ '"' :: (value ++ '"' :: behind) := by
          rw [← opened, Text.trimStart, List.takeWhile_append_dropWhile]
        have isLead (quote : Char) (noName : isNameRest quote = false)
            (noBlank : Text.isBlank quote = false) (noSign : quote ≠ '=') :
            quote ∉ first :: (rest.takeWhile isNameRest ++
              ((rest.dropWhile isNameRest).takeWhile Text.isBlank ++
                '=' :: signed.takeWhile Text.isBlank)) := by
          have outside {test : Char → Bool} (fails : test quote = false) (chars : List Char) :
              quote ∉ chars.takeWhile test := by
            intro member
            rw [List.all_eq_true.mp List.all_takeWhile quote member] at fails
            cases fails
          have notFirst : quote ≠ first :=
            (Grammar.ne_of_class (isNameRest_of_isNameStart starts) noName).symm
          simp [notFirst, noSign, outside noName, outside noBlank]
        refine ⟨_, value ++ '"' :: behind, ?_, isLead '"' rfl rfl (by decide),
          isLead '\'' rfl rfl (by decide)⟩
        rw [List.cons_append, List.append_assoc, List.append_assoc, List.cons_append, ← valued,
          ← spaced, ← named]
      · cases recognized

/-- In front of white space a name ends. -/
theorem ends_append_of_isMarkupSpace
    {space rest : List Char}
    (blank : ∀ char ∈ space, Text.isMarkupSpace char = true)
    (ends : ∀ char ∈ rest.head?, isNameRest char = false) :
    ∀ char ∈ (space ++ rest).head?, isNameRest char = false := by
  cases space with
  | nil => exact ends
  | cons first space =>
      rintro char ⟨⟩
      exact isNameRest_of_isBlank (isBlank_of_isMarkupSpace (blank first List.mem_cons_self))

/-- White space in front of something visible is trimmed away. -/
theorem trimStart_append_of_isMarkupSpace
    {space rest : List Char}
    (blank : ∀ char ∈ space, Text.isMarkupSpace char = true)
    (visible : ∀ char ∈ rest.head?, Text.isBlank char = false) :
    Text.trimStart (space ++ rest) = rest :=
  Text.dropWhile_append_of_stop
    (fun char member => isBlank_of_isMarkupSpace (blank char member)) visible

/-- An attribute does not begin in front of a single quote that comes before
the next double quote. -/
theorem recognize?_append_apostrophe
    {front rest : List Char}
    (plain : '"' ∉ front) :
    recognize? (front ++ '\'' :: rest) = none := by
  rw [Option.eq_none_iff_forall_ne_some]
  rintro ⟨found, tail⟩ recognized
  obtain ⟨lead, behind, split, noDouble, noSingle⟩ := exists_lead recognized
  rcases List.append_eq_append_iff.mp split with ⟨more, leadEq, quoted⟩ | ⟨more, frontEq, quoted⟩
  · cases more with
    | nil => cases quoted
    | cons char more =>
        cases quoted
        simp [leadEq] at noSingle
  · cases more with
    | nil => cases quoted
    | cons char more =>
        cases quoted
        simp [frontEq] at plain

theorem attributes_append_apostrophe
    {front : List Char}
    (plain : '"' ∉ front)
    (rest : List Char) :
    attributes (front ++ '\'' :: rest) = attributes rest := by
  have silent : Text.Silent recognize? (front ++ ['\'']) rest := by
    intro back isBack nonempty
    rcases List.suffix_concat_iff.mp isBack with rfl | ⟨shorter, rfl, isFront⟩
    · exact absurd rfl nonempty
    · rw [List.append_assoc]
      exact recognize?_append_apostrophe fun member => plain (isFront.mem member)
  have split : front ++ '\'' :: rest = (front ++ ['\'']) ++ rest := by simp
  rw [attributes, split, Text.valuesOf_append_of_none silent, attributes]

/-- A word that no equals sign follows is no attribute, and none begins in
it. -/
theorem attributes_append_word
    {word rest : List Char}
    (named : ∀ char ∈ word, isNameRest char = true)
    (ends : ∀ char ∈ rest.head?, isNameRest char = false)
    (unsigned : (Text.trimStart rest).head? ≠ some '=') :
    attributes (word ++ rest) = attributes rest := by
  apply Text.valuesOf_append_of_none
  intro back isBack nonempty
  obtain ⟨first, back, rfl⟩ := List.exists_cons_of_ne_nil nonempty
  have inside : ∀ char ∈ back, isNameRest char = true :=
    fun char member => named char (isBack.mem (List.mem_cons_of_mem first member))
  have noSign : Text.after? ['='] (Text.trimStart rest) = none := by
    rw [Option.eq_none_iff_forall_ne_some]
    intro signed sign
    rw [Text.after?_eq_some_iff.mp sign] at unsigned
    exact unsigned rfl
  simp [recognize?, Text.dropWhile_append_of_stop inside ends, noSign]

theorem attributes_append_of_isMarkupSpace
    {space : List Char}
    (blank : ∀ char ∈ space, Text.isMarkupSpace char = true)
    (rest : List Char) :
    attributes (space ++ rest) = attributes rest :=
  valuesOf_append_of_not_start fun char member =>
    not_isNameStart_of_isMarkupSpace (blank char member)

end Attribute

/-! ## What is read -/

namespace WrittenAttribute

theorem attributes_append_of_double
    {written : WrittenAttribute}
    (isDouble : written.quote = .double)
    (rest : List Char) :
    attributes (written.chars ++ rest) = written.read :: attributes rest := by
  have unquoted : '"' ∉ written.value := by
    have unquoted := written.unquoted
    rwa [isDouble] at unquoted
  have layout : written.chars = written.read.chars := by
    simp [chars, read, Attribute.chars, isDouble, Grammar.Quote.char]
  have nonempty : written.read.chars ≠ [] := by simp [Attribute.chars]
  have recognized : Attribute.recognize? (written.read.chars ++ rest) =
      some (written.read, rest) :=
    Attribute.recognize?_chars (by simp [read, AttributeName.chars]) written.name.starts
      written.name.allowed (by simpa [read] using unquoted) rest
  rw [layout]
  exact Text.valuesOf_append_of_some nonempty recognized

theorem attributes_append_of_single
    {written : WrittenAttribute}
    (isSingle : written.quote = .single)
    (plain : '"' ∉ written.value)
    (rest : List Char) :
    attributes (written.chars ++ rest) = attributes rest := by
  have notNamed : '"' ∉ written.name.chars := written.name.not_mem rfl
  have noName : '"' ∉ written.name.chars ++ ['='] := by simp [notNamed]
  have layout : written.chars ++ rest =
      (written.name.chars ++ ['=']) ++ '\'' :: (written.value ++ '\'' :: rest) := by
    simp [chars, isSingle, Grammar.Quote.char]
  rw [layout, Attribute.attributes_append_apostrophe noName,
    Attribute.attributes_append_apostrophe plain]

/-- The attributes in double quotes are read in order. -/
theorem attributes_line_append
    {written : List (Grammar.Space × WrittenAttribute)}
    (plain : ∀ item ∈ written, '"' ∉ item.2.value)
    (rest : List Char) :
    attributes (line written ++ rest) = readAll written ++ attributes rest := by
  induction written with
  | nil => rfl
  | cons item written inductionHypothesis =>
      have later := inductionHypothesis fun other member =>
        plain other (List.mem_cons_of_mem item member)
      have split : line (item :: written) ++ rest =
          item.1.chars ++ (item.2.chars ++ (line written ++ rest)) := by
        simp [line]
      rw [split, Attribute.attributes_append_of_isMarkupSpace
        fun char member => item.1.isMarkupSpace_of_mem member]
      cases quoteEq : item.2.quote with
      | single =>
          rw [attributes_append_of_single quoteEq (plain item List.mem_cons_self), later]
          simp [readAll, quoteEq]
      | double =>
          rw [attributes_append_of_double quoteEq, later]
          simp [readAll, quoteEq]

/-- In front of attributes a word ends. -/
theorem ends_line_append
    {written : List (Grammar.Space × WrittenAttribute)}
    {rest : List Char}
    (ends : ∀ char ∈ rest.head?, Attribute.isNameRest char = false) :
    ∀ char ∈ (line written ++ rest).head?, Attribute.isNameRest char = false := by
  cases written with
  | nil => exact ends
  | cons item written =>
      rintro char ⟨⟩
      exact Attribute.isNameRest_of_isBlank (isBlank_of_isMarkupSpace item.1.blank)

/-- Behind the white space in front of attributes no equals sign follows. -/
theorem unsigned_line_append
    {written : List (Grammar.Space × WrittenAttribute)}
    {rest : List Char}
    (unsigned : (Text.trimStart rest).head? ≠ some '=') :
    (Text.trimStart (line written ++ rest)).head? ≠ some '=' := by
  cases written with
  | nil => exact unsigned
  | cons item written =>
      have visible : Text.isBlank item.2.name.first = false := by
        by_contra isBlank
        have starts := item.2.name.starts
        rw [Attribute.isNameStart_of_isNameRest (Attribute.isNameRest_of_isBlank
          (Bool.of_not_eq_false isBlank))] at starts
        cases starts
      have split : line (item :: written) ++ rest =
          item.1.chars ++ (item.2.chars ++ (line written ++ rest)) := by
        simp [line]
      have trimmed : Text.trimStart (line (item :: written) ++ rest) =
          item.2.chars ++ (line written ++ rest) := by
        rw [split]
        apply Attribute.trimStart_append_of_isMarkupSpace fun _ => item.1.isMarkupSpace_of_mem
        rintro char ⟨⟩
        exact visible
      rw [trimmed]
      intro isSign
      have sign : item.2.name.first = '=' := Option.some.inj isSign
      have starts := item.2.name.starts
      rw [sign] at starts
      cases starts

/-- Behind the name of a tag its attributes are read. -/
theorem attributes_tag_append
    {word ending : List Char}
    {written : List (Grammar.Space × WrittenAttribute)}
    (named : ∀ char ∈ word, Attribute.isNameRest char = true)
    (plain : ∀ item ∈ written, '"' ∉ item.2.value)
    (ends : ∀ char ∈ ending.head?, Attribute.isNameRest char = false)
    (unsigned : (Text.trimStart ending).head? ≠ some '=') :
    attributes ('<' :: (word ++ (line written ++ ending))) =
      readAll written ++ attributes ending := by
  have bracket : attributes (['<'] ++ (word ++ (line written ++ ending))) =
      attributes (word ++ (line written ++ ending)) :=
    Attribute.valuesOf_append_of_not_start (List.forall_mem_singleton.mpr rfl)
  rw [← List.singleton_append, bracket, Attribute.attributes_append_word named
    (ends_line_append ends) (unsigned_line_append unsigned), attributes_line_append plain]

end WrittenAttribute
end Markup
end JspCompletion
