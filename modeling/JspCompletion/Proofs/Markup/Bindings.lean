import JspCompletion.Markup.Binding
import JspCompletion.Proofs.Markup.Written
import JspCompletion.Proofs.Text.Bytes
import JspCompletion.Proofs.Text.Merging

/-!
# The bindings of a page of tags

A page of start tags with text between them binds a variable for each `var` and
`varStatus` attribute that is not blank, and one for each bean with a class and
an id.  The main result says that these are the bindings of the page, in the
order of the tags, as long as no value holds a closing bracket or opens a bean.

Two searches meet here.  Each cuts out tags from an opening to the next closing
bracket, whether or not the bracket stands in a value.  A value with a bracket
cuts its tag short, and what opens a bean inside a value counts as one.
-/

namespace JspCompletion
namespace Markup
namespace TagPage

/-! ## Pages of tags -/

/-- ASCII letters, at least one. -/
structure Letters where
  chars : List Char
  nonempty : chars ≠ []
  letters : chars.all Char.isAlpha = true

/-- A start tag with a namespace. -/
structure Tag where
  /-- The namespace. -/
  space : Letters
  /-- The name behind it. -/
  name : Letters
  /-- The attributes, each behind white space. -/
  attributes : List (Grammar.Space × WrittenAttribute)
  doubleQuoted : ∀ item ∈ attributes, item.2.quote = .double
  /-- White space in front of the end. -/
  gap : Grammar.Gap
  /-- The tag closes itself. -/
  slash : Bool

namespace Tag

/-- The name with its namespace. -/
def word (tag : Tag) : List Char :=
  tag.space.chars ++ ':' :: tag.name.chars

/-- The text between the name and the closing bracket. -/
def body (tag : Tag) : List Char :=
  WrittenAttribute.line tag.attributes ++ (tag.gap.chars ++ if tag.slash then ['/'] else [])

/-- The text of a tag. -/
def chars (tag : Tag) : List Char :=
  '<' :: (tag.word ++ (tag.body ++ ['>']))

/-- The attributes of a tag. -/
def written (tag : Tag) : List Attribute :=
  tag.attributes.map (·.2.read)

/-- The variable that an attribute binds. -/
def ofAttribute? (attr : Attribute) : Option Binding :=
  if (attr.name = "var" ∨ attr.name = "varStatus") ∧ Text.trimmed attr.value ≠ "" then
    some { name := Text.trimmed attr.value, typeName := none, source := .tagAttribute }
  else
    none

/-- The variables that the attributes of a tag bind. -/
def ofAttributes (tag : Tag) : List Binding :=
  tag.written.filterMap ofAttribute?

/-- The word of a bean declaration. -/
def beanWord : List Char :=
  "jsp:useBean".toList

/-- The bean that a tag declares. -/
def bean? (tag : Tag) : Option Binding :=
  if tag.word = beanWord then
    match lastValue? tag.written "id", lastValue? tag.written "class" with
    | some id, some className =>
        if Text.trimmed id = "" then
          none
        else
          some
            { name := Text.trimmed id
              typeName := some (Text.trimmed className)
              source := .bean }
    | _, _ => none
  else
    none

/-- What a tag binds. -/
def bindings (tag : Tag) : List Binding :=
  tag.ofAttributes ++ tag.bean?.toList

/-- No value closes the tag or opens a bean. -/
def IsTame (tag : Tag) : Prop :=
  ∀ item ∈ tag.attributes, '>' ∉ item.2.value ∧ ¬ '<' :: beanWord <:+: item.2.value

instance (tag : Tag) : Decidable tag.IsTame :=
  inferInstanceAs (Decidable (∀ item ∈ tag.attributes, _))

end Tag

/-- A part of a page. -/
inductive Piece where
  /-- Text between tags. -/
  | text (chars : List Char) (unbracketed : '<' ∉ chars)
  /-- A tag. -/
  | tag (tag : Tag)

/-- The text of a piece. -/
def Piece.chars : Piece → List Char
  | .text chars _ => chars
  | .tag item => item.chars

/-- The text of a page. -/
def render (pieces : List Piece) : List Char :=
  pieces.flatMap Piece.chars

/-- The tags of a page, with the number of characters in front of each. -/
def places : List Piece → List (Nat × Tag)
  | [] => []
  | .text chars _ :: pieces => Text.shifted chars.length (places pieces)
  | .tag tag :: pieces => (0, tag) :: Text.shifted tag.chars.length (places pieces)

/-- The tags of a page. -/
def tags (pieces : List Piece) : List Tag :=
  (places pieces).map (·.2)

@[simp] theorem tags_text (chars : List Char) (unbracketed : '<' ∉ chars) (pieces : List Piece) :
    tags (.text chars unbracketed :: pieces) = tags pieces := by
  simp [tags, places]

@[simp] theorem tags_tag (tag : Tag) (pieces : List Piece) :
    tags (.tag tag :: pieces) = tag :: tags pieces := by
  simp [tags, places]

/-- No two tags of a page stand in one place. -/
theorem places_increasing (pieces : List Piece) :
    (places pieces).Pairwise fun left right => left.1 < right.1 := by
  have shift (distance : Nat) {places : List (Nat × Tag)}
      (increasing : places.Pairwise fun left right => left.1 < right.1) :
      (Text.shifted distance places).Pairwise fun left right => left.1 < right.1 := by
    simpa [Text.shifted, List.pairwise_map] using increasing
  induction pieces with
  | nil => exact List.Pairwise.nil
  | cons piece pieces inductionHypothesis =>
      cases piece with
      | text chars _ => exact shift chars.length inductionHypothesis
      | tag tag =>
          refine List.Pairwise.cons ?_ (shift tag.chars.length inductionHypothesis)
          intro place member
          obtain ⟨other, _, rfl⟩ := List.mem_map.mp member
          simp only [Tag.chars, List.length_cons]
          omega

/-! ## The text of a tag -/

theorem isNameRest_of_isAlpha
    {char : Char}
    (letter : char.isAlpha = true) :
    Attribute.isNameRest char = true := by
  simp [Attribute.isNameRest, Char.isAlphanum, letter]

theorem isWordChar_of_isAlpha
    {char : Char}
    (letter : char.isAlpha = true) :
    Text.isWordChar char = true := by
  have isAlphanum : char.isAlphanum = true := by simp [Char.isAlphanum, letter]
  have ascii : char.toNat < 0x80 := Text.lt_of_isAlphanum isAlphanum
  simp [Text.isWordChar, ascii, isAlphanum]

theorem Letters.isAlpha_of_mem
    (letters : Letters)
    {char : Char}
    (member : char ∈ letters.chars) :
    char.isAlpha = true :=
  List.all_eq_true.mp letters.letters char member

theorem Letters.takeWhile_append
    (letters : Letters)
    {rest : List Char}
    (stops : ∀ char ∈ rest.head?, char.isAlpha = false) :
    (letters.chars ++ rest).takeWhile Char.isAlpha = letters.chars ∧
      (letters.chars ++ rest).dropWhile Char.isAlpha = rest :=
  ⟨Text.takeWhile_append_of_stop (fun _ => letters.isAlpha_of_mem) stops,
    Text.dropWhile_append_of_stop (fun _ => letters.isAlpha_of_mem) stops⟩

theorem Letters.letters?_append
    (letters : Letters)
    {rest : List Char}
    (stops : ∀ char ∈ rest.head?, char.isAlpha = false) :
    Binding.letters? (letters.chars ++ rest) = some (letters.chars, rest) := by
  obtain ⟨taken, dropped⟩ := letters.takeWhile_append stops
  rw [Binding.letters?, taken, dropped, if_neg]
  simpa using letters.nonempty

theorem throughBracket?_append
    {front : List Char}
    (unclosed : '>' ∉ front)
    (rest : List Char) :
    Binding.throughBracket? (front ++ '>' :: rest) = some (front ++ ['>'], rest) := by
  simp only [Binding.throughBracket?, Text.dropWhile_append_mark unclosed,
    Text.takeWhile_append_mark unclosed]

namespace Tag

variable {tag : Tag} {rest : List Char}

/-- Behind its name a tag has white space, a slash or its closing bracket. -/
theorem head_body_append (tag : Tag) :
    ∀ char ∈ (tag.body ++ '>' :: rest).head?,
      Text.isMarkupSpace char = true ∨ char = '/' ∨ char = '>' := by
  intro char first
  obtain ⟨_, _, attributes, _, ⟨gap, blank⟩, slash⟩ := tag
  cases attributes with
  | cons item attributes =>
      cases first
      exact .inl item.1.blank
  | nil =>
      cases gap with
      | cons head gap =>
          cases first
          exact .inl (blank char List.mem_cons_self)
      | nil =>
          cases slash <;> cases first <;> simp

theorem ends_word (tag : Tag) :
    ∀ char ∈ (tag.body ++ '>' :: rest).head?, Attribute.isNameRest char = false := by
  intro char first
  rcases tag.head_body_append char first with blank | rfl | rfl
  · exact Attribute.isNameRest_of_isBlank (isBlank_of_isMarkupSpace blank)
  · rfl
  · rfl

theorem isNameRest_word (tag : Tag) : ∀ char ∈ tag.word, Attribute.isNameRest char = true := by
  apply forall_mem_qualified rfl
  intro char member
  rcases List.mem_append.mp member with inSpace | inName
  · exact isNameRest_of_isAlpha (tag.space.isAlpha_of_mem inSpace)
  · exact isNameRest_of_isAlpha (tag.name.isAlpha_of_mem inName)

/-- The search for attributes reads those of the tag. -/
theorem attributes_chars (tag : Tag) : Markup.attributes tag.chars = tag.written := by
  let ending := tag.gap.chars ++ ((if tag.slash then ['/'] else []) ++ ['>'])
  have layout : tag.chars =
      '<' :: (tag.word ++ (WrittenAttribute.line tag.attributes ++ ending)) := by
    simp [chars, body, ending]
  have silentEnd : Markup.attributes ending = [] := by
    rw [Attribute.attributes_append_of_isMarkupSpace tag.gap.blank]
    cases tag.slash <;> rfl
  have visible : ∀ char ∈ ((if tag.slash then ['/'] else []) ++ ['>']).head?,
      Text.isBlank char = false ∧ Attribute.isNameRest char = false ∧ char ≠ '=' := by
    cases tag.slash <;>
    · rintro char ⟨⟩
      decide
  have ends : ∀ char ∈ ending.head?, Attribute.isNameRest char = false :=
    Attribute.ends_append_of_isMarkupSpace tag.gap.blank fun char first => (visible char first).2.1
  have unsigned : (Text.trimStart ending).head? ≠ some '=' := by
    rw [Attribute.trimStart_append_of_isMarkupSpace tag.gap.blank fun char first =>
      (visible char first).1]
    exact fun sign => (visible '=' sign).2.2 rfl
  have plain : ∀ item ∈ tag.attributes, '"' ∉ item.2.value := by
    intro item member
    have unquoted := item.2.unquoted
    rwa [tag.doubleQuoted item member] at unquoted
  have allRead : WrittenAttribute.readAll tag.attributes = tag.written := by
    rw [WrittenAttribute.readAll, List.filter_eq_self.mpr]
    · rfl
    · simpa using tag.doubleQuoted
  rw [layout, WrittenAttribute.attributes_tag_append tag.isNameRest_word plain ends unsigned,
    silentEnd, allRead, List.append_nil]

theorem not_isAlpha_head (tag : Tag) :
    ∀ char ∈ (tag.body ++ '>' :: rest).head?, char.isAlpha = false := by
  intro char first
  by_contra letter
  have named := isNameRest_of_isAlpha (Bool.of_not_eq_false letter)
  rw [tag.ends_word char first] at named
  cases named

theorem not_isWordChar_head (tag : Tag) :
    ∀ char ∈ (tag.body ++ '>' :: rest).head?, Text.isWordChar char = false := by
  intro char first
  rcases tag.head_body_append char first with blank | rfl | rfl
  · exact eq_of_isMarkupSpace blank (by decide)
  · rfl
  · rfl

/-- A tag whose text begins like that of a bean declaration declares a bean. -/
theorem word_eq_beanWord
    (tag : Tag)
    {tail : List Char}
    (ends : ∀ char ∈ tail.head?, char.isAlpha = false)
    (same : tag.word ++ (tag.body ++ '>' :: rest) = beanWord ++ tail) :
    tag.word = beanWord := by
  let space : Letters := ⟨"jsp".toList, by decide, by decide⟩
  let name : Letters := ⟨"useBean".toList, by decide, by decide⟩
  have colon (behind : List Char) : ∀ char ∈ (':' :: behind).head?, char.isAlpha = false := by
    rintro char ⟨⟩
    rfl
  have bean : beanWord = space.chars ++ ':' :: name.chars := rfl
  have split : tag.space.chars ++ ':' :: (tag.name.chars ++ (tag.body ++ '>' :: rest)) =
      space.chars ++ ':' :: (name.chars ++ tail) := by
    simpa [word, bean] using same
  have spaces : tag.space.chars = space.chars := by
    rw [← (tag.space.takeWhile_append (colon _)).1, split, (space.takeWhile_append (colon _)).1]
  have behind : tag.name.chars ++ (tag.body ++ '>' :: rest) = name.chars ++ tail := by
    rw [spaces] at split
    exact (List.cons.inj (List.append_cancel_left split)).2
  have names : tag.name.chars = name.chars := by
    rw [← (tag.name.takeWhile_append tag.not_isAlpha_head).1, behind,
      (name.takeWhile_append ends).1]
  rw [word, spaces, names]
  rfl

theorem chars_append (tag : Tag) (rest : List Char) :
    tag.chars ++ rest = ['<'] ++ (tag.space.chars ++ ([':'] ++ (tag.name.chars ++
      (tag.body ++ '>' :: rest)))) := by
  simp [chars, word]

/-! ### Cutting out tags -/

/-- A tag with white space behind its name is cut out whole. -/
theorem customTag?_append
    (unclosed : '>' ∉ tag.body)
    (rest : List Char) :
    Binding.customTag? (tag.chars ++ rest) =
      if tag.body.head?.any Text.isMarkupSpace then some (tag.chars, rest) else none := by
  have colon : ∀ char ∈ ([':'] ++ (tag.name.chars ++ (tag.body ++ '>' :: rest))).head?,
      char.isAlpha = false := by
    rintro char ⟨⟩
    rfl
  have behind : ∀ char ∈ (tag.body ++ '>' :: rest).head?,
      Text.isMarkupSpace char = true ∨ char = '/' ∨ char = '>' := tag.head_body_append
  have whole : tag.chars =
      '<' :: tag.space.chars ++ ':' :: tag.name.chars ++ (tag.body ++ ['>']) := by
    simp [chars, word]
  rw [Binding.customTag?, chars_append, Text.after?_append]
  simp only [Option.bind_eq_bind, Option.bind_some, tag.space.letters?_append colon,
    Text.after?_append, tag.name.letters?_append tag.not_isAlpha_head]
  cases bodyEq : tag.body with
  | nil => rfl
  | cons first more =>
      rw [bodyEq] at unclosed behind
      have unclosedMore : '>' ∉ more := fun member => unclosed (List.mem_cons_of_mem first member)
      rcases behind first rfl with blank | rfl | rfl
      · simp [blank, isBlank_of_isMarkupSpace blank, throughBracket?_append unclosedMore, whole,
          bodyEq]
      · rfl
      · rfl

theorem useBean?_append
    (unclosed : '>' ∉ tag.body)
    (rest : List Char) :
    Binding.useBean? (tag.chars ++ rest) =
      if tag.word = beanWord then some (tag.chars, rest) else none := by
  have split : tag.chars ++ rest = '<' :: tag.word ++ (tag.body ++ '>' :: rest) := by
    simp [chars]
  split
  · rename_i isBean
    have stops : ((tag.body ++ '>' :: rest).head?.map Text.isWordChar).getD false = false := by
      cases first : (tag.body ++ '>' :: rest).head? with
      | none => rfl
      | some char => exact tag.not_isWordChar_head char first
    have opened : Text.after? "<jsp:useBean".toList (tag.chars ++ rest) =
        some (tag.body ++ '>' :: rest) := by
      rw [Text.after?_eq_some_iff, split, isBean]
      rfl
    have whole : tag.chars = "<jsp:useBean".toList ++ (tag.body ++ ['>']) := by
      rw [chars, isBean]
      rfl
    rw [Binding.useBean?, opened]
    simp only [Option.bind_eq_bind, Option.bind_some, stops, Bool.false_eq_true, if_false,
      throughBracket?_append unclosed, whole]
  · rename_i notBean
    rw [Option.eq_none_iff_forall_ne_some]
    intro found recognized
    simp only [Binding.useBean?, Option.bind_eq_bind, Option.bind_eq_some_iff] at recognized
    obtain ⟨tail, opened, behind⟩ := recognized
    rw [Text.after?_eq_some_iff, split] at opened
    refine notBean (tag.word_eq_beanWord ?_ (List.cons.inj opened).2)
    intro char first
    by_contra letter
    simp [Option.mem_def.mp first, isWordChar_of_isAlpha (Bool.of_not_eq_false letter)] at behind

/-! ### What tame values exclude -/

theorem not_mem_body
    (tame : tag.IsTame) :
    '>' ∉ tag.body := by
  have inLine : '>' ∉ WrittenAttribute.line tag.attributes :=
    WrittenAttribute.not_mem_line rfl rfl (by decide) fun item member => (tame item member).1
  have inGap : '>' ∉ tag.gap.chars := tag.gap.not_mem rfl
  cases slash : tag.slash <;> simp [body, inLine, inGap, slash]

theorem not_mem_word (tag : Tag) : '<' ∉ tag.word := by
  intro member
  cases tag.isNameRest_word '<' member

/-- Without attributes a tag opens one bracket only. -/
theorem not_mem_body_of_attributes_eq_nil
    (unattributed : tag.attributes = []) :
    '<' ∉ tag.body := by
  have inGap : '<' ∉ tag.gap.chars := tag.gap.not_mem rfl
  cases slash : tag.slash <;> simp [body, unattributed, WrittenAttribute.line, inGap, slash]

/-- Double quotes keep the values apart, so no bean opens across them. -/
theorem not_infix_line
    {attributes : List (Grammar.Space × WrittenAttribute)}
    {front tail : List Char}
    (doubleQuoted : ∀ item ∈ attributes, item.2.quote = .double)
    (closed : ∀ item ∈ attributes, ¬ '<' :: beanWord <:+: item.2.value)
    (notFront : '<' ∉ front)
    (notTail : '<' ∉ tail) :
    ¬ '<' :: beanWord <:+: front ++ (WrittenAttribute.line attributes ++ tail) := by
  have noBean {chars : List Char} (absent : '<' ∉ chars) : ¬ '<' :: beanWord <:+: chars :=
    fun inside => absent (inside.subset List.mem_cons_self)
  induction attributes generalizing front with
  | nil =>
      refine noBean ?_
      simp [WrittenAttribute.line, notFront, notTail]
  | cons item attributes inductionHypothesis =>
      have later : ¬ '<' :: beanWord <:+: [] ++ (WrittenAttribute.line attributes ++ tail) :=
        inductionHypothesis
          (fun other member => doubleQuoted other (List.mem_cons_of_mem item member))
          (fun other member => closed other (List.mem_cons_of_mem item member)) List.not_mem_nil
      have lead : '<' ∉ front ++ (item.1.chars ++ (item.2.name.chars ++ ['='])) := by
        have inSpace : '<' ∉ item.1.chars := item.1.not_mem rfl
        have inName : '<' ∉ item.2.name.chars := item.2.name.not_mem rfl
        simp [notFront, inSpace, inName]
      have split : front ++ (WrittenAttribute.line (item :: attributes) ++ tail) =
          (front ++ (item.1.chars ++ (item.2.name.chars ++ ['=']))) ++
            '"' :: (item.2.value ++ '"' :: (WrittenAttribute.line attributes ++ tail)) := by
        simp [WrittenAttribute.line, WrittenAttribute.chars, Grammar.Quote.char,
          doubleQuoted item List.mem_cons_self]
      have foreign : '"' ∉ '<' :: beanWord := by decide
      rw [split]
      exact Text.not_infix_append_cons foreign (noBean lead)
        (Text.not_infix_append_cons foreign (closed item List.mem_cons_self) later)

/-- A tag with attributes has white space behind its name. -/
theorem attributes_eq_nil
    (uncut : tag.body.head?.any Text.isMarkupSpace = false) :
    tag.attributes = [] := by
  obtain ⟨_, _, attributes, _, _, _⟩ := tag
  cases attributes with
  | nil => rfl
  | cons item attributes =>
      have blank : Text.isMarkupSpace item.1.first = false := uncut
      rw [item.1.blank] at blank
      cases blank

/-! ### What is made of a tag -/

theorem ofTag_chars (tag : Tag) : Binding.ofTag tag.chars = tag.ofAttributes := by
  rw [Binding.ofTag, attributes_chars, ofAttributes]
  congr 1
  funext attr
  unfold ofAttribute?
  split <;> split <;> simp_all

theorem ofBean?_chars
    (isBean : tag.word = beanWord) :
    Binding.ofBean? tag.chars = tag.bean? := by
  rw [Binding.ofBean?, attributes_chars, bean?, if_pos isBean]
  cases lastValue? tag.written "id" <;> cases lastValue? tag.written "class" <;> rfl

end Tag

/-! ## Searching a page -/

/-- A search that begins with an opening bracket and cuts some tags out whole,
and finds nothing in the others. -/
structure CutsOut
    (recognize? : List Char → Option (List Char × List Char))
    (cut : Tag → Bool) : Prop where
  begins : Text.BeginWith recognize? ['<']
  atTag (tag : Tag) (tame : tag.IsTame) (rest : List Char) :
    recognize? (tag.chars ++ rest) = if cut tag then some (tag.chars, rest) else none
  inside (tag : Tag) (tame : tag.IsTame) (uncut : cut tag = false) (rest : List Char) :
    Text.Silent recognize? (tag.word ++ (tag.body ++ ['>'])) rest

theorem beginWith_customTag? : Text.BeginWith Binding.customTag? ['<'] := by
  intro text found recognized
  simp only [Binding.customTag?, Option.bind_eq_bind, Option.bind_eq_some_iff] at recognized
  obtain ⟨tail, opened, _⟩ := recognized
  exact ⟨tail, (Text.after?_eq_some_iff.mp opened).symm⟩

theorem beginWith_useBean? : Text.BeginWith Binding.useBean? ('<' :: Tag.beanWord) := by
  intro text found recognized
  simp only [Binding.useBean?, Option.bind_eq_bind, Option.bind_eq_some_iff] at recognized
  obtain ⟨tail, opened, _⟩ := recognized
  exact ⟨tail, (Text.after?_eq_some_iff.mp opened).symm⟩

/-- The search for tags cuts out those with white space behind their name. -/
theorem cutsOut_customTag? :
    CutsOut Binding.customTag? fun tag => tag.body.head?.any Text.isMarkupSpace where
  begins := beginWith_customTag?
  atTag tag tame := tag.customTag?_append (Tag.not_mem_body tame)
  inside tag _ uncut rest := by
    apply beginWith_customTag?.silent_of_not_mem
    have inBody := Tag.not_mem_body_of_attributes_eq_nil (Tag.attributes_eq_nil uncut)
    simp [tag.not_mem_word, inBody]

/-- The search for beans cuts out their declarations. -/
theorem cutsOut_useBean? :
    CutsOut Binding.useBean? fun tag => tag.word = Tag.beanWord where
  begins text found recognized :=
    List.IsPrefix.trans (by simp) (beginWith_useBean? text found recognized)
  atTag tag tame rest := by
    simpa using tag.useBean?_append (Tag.not_mem_body tame) rest
  inside tag tame _ rest := by
    have closed (item) (member : item ∈ tag.attributes) := (tame item member).2
    have notTail : '<' ∉ tag.gap.chars ++ if tag.slash then ['/'] else [] := by
      have inGap : '<' ∉ tag.gap.chars := tag.gap.not_mem rfl
      cases slash : tag.slash <;> simp [inGap]
    have unopened : ¬ '<' :: Tag.beanWord <:+: tag.word ++ tag.body :=
      Tag.not_infix_line tag.doubleQuoted closed tag.not_mem_word notTail
    rw [← List.append_assoc]
    apply Text.Silent.append
    · apply beginWith_useBean?.silent_of_not_infix unopened
      rintro char ⟨⟩
      decide
    · exact beginWith_useBean?.silent_of_not_mem (by decide)

section Search

variable {recognize? : List Char → Option (List Char × List Char)}
variable {cut : Tag → Bool}

/-- The search goes on behind a tag, whether or not it is cut out. -/
theorem CutsOut.occurrences_append
    (cuts : CutsOut recognize? cut)
    {tag : Tag}
    (tame : tag.IsTame)
    (rest : List Char) :
    Text.occurrences recognize? (tag.chars ++ rest) =
      (if cut tag then [(0, tag.chars)] else []) ++
        Text.shifted tag.chars.length (Text.occurrences recognize? rest) := by
  have here := cuts.atTag tag tame rest
  cases isCut : cut tag with
  | true =>
      rw [isCut, if_pos rfl] at here
      rw [Text.occurrences_append_of_some (by simp [Tag.chars]) here]
      rfl
  | false =>
      rw [isCut, if_neg Bool.false_ne_true] at here
      have opening : Text.Silent recognize? ['<'] (tag.word ++ (tag.body ++ ['>']) ++ rest) :=
        Text.silent_nil.cons here
      exact (opening.append (cuts.inside tag tame isCut rest)).occurrences_append

/-- Over a page the search finds the tags that it cuts out, where they stand. -/
theorem CutsOut.occurrences_render
    (cuts : CutsOut recognize? cut)
    {pieces : List Piece}
    (tame : ∀ tag ∈ tags pieces, tag.IsTame) :
    Text.occurrences recognize? (render pieces) =
      ((places pieces).filter fun place => cut place.2).map
        fun place => (place.1, place.2.chars) := by
  have found_shifted (distance : Nat) (places : List (Nat × Tag)) :
      ((Text.shifted distance places).filter fun place => cut place.2).map
          (fun place => (place.1, place.2.chars)) =
        Text.shifted distance ((places.filter fun place => cut place.2).map
          fun place => (place.1, place.2.chars)) := by
    simp [Text.shifted, List.filter_map, Function.comp_def]
  induction pieces with
  | nil => rfl
  | cons piece pieces inductionHypothesis =>
      cases piece with
      | text chars unbracketed =>
          have later := inductionHypothesis (by simpa using tame)
          have silently : Text.Silent recognize? chars (render pieces) :=
            cuts.begins.silent_of_not_mem unbracketed
          calc Text.occurrences recognize? (chars ++ render pieces)
              = Text.shifted chars.length (Text.occurrences recognize? (render pieces)) :=
                silently.occurrences_append
            _ = _ := by rw [later, places, found_shifted]
      | tag tag =>
          rw [tags_tag, List.forall_mem_cons] at tame
          have later := inductionHypothesis tame.2
          calc Text.occurrences recognize? (tag.chars ++ render pieces)
              = (if cut tag then [(0, tag.chars)] else []) ++
                  Text.shifted tag.chars.length (Text.occurrences recognize? (render pieces)) :=
                cuts.occurrences_append tame.1 _
            _ = _ := by
                rw [later, places, List.filter_cons]
                cases cut tag <;> simp [found_shifted]

/-- What is made of the tags found is what the tags of the page make, if those
that are not cut out make nothing. -/
theorem CutsOut.spread_render
    (cuts : CutsOut recognize? cut)
    {pieces : List Piece}
    (tame : ∀ tag ∈ tags pieces, tag.IsTame)
    {values : List Char → List Binding}
    {made : Tag → List Binding}
    (ofCut : ∀ tag, cut tag = true → values tag.chars = made tag)
    (ofUncut : ∀ tag, cut tag = false → made tag = []) :
    Text.spread values (Text.occurrences recognize? (render pieces)) =
      Text.spread made (places pieces) := by
  rw [cuts.occurrences_render tame]
  induction places pieces with
  | nil => rfl
  | cons place places inductionHypothesis =>
      cases isCut : cut place.2 with
      | true => simp [isCut, ofCut place.2 isCut, inductionHypothesis]
      | false => simp [isCut, ofUncut place.2 isCut, inductionHypothesis]

end Search

/-! ## The bindings of a page -/

/-- The bindings of a page of tame tags are those of its tags, in their
order. -/
theorem bindings_render
    (pieces : List Piece)
    (tame : ∀ tag ∈ tags pieces, tag.IsTame) :
    Markup.bindings (render pieces) = (tags pieces).flatMap Tag.bindings := by
  have ofTags : Text.spread Binding.ofTag (Text.occurrences Binding.customTag? (render pieces)) =
      Text.spread Tag.ofAttributes (places pieces) := by
    apply cutsOut_customTag?.spread_render tame fun tag _ => tag.ofTag_chars
    intro tag uncut
    simp [Tag.ofAttributes, Tag.written, Tag.attributes_eq_nil uncut]
  have ofBeans : Text.spread (fun element => (Binding.ofBean? element).toList)
        (Text.occurrences Binding.useBean? (render pieces)) =
      Text.spread (fun tag => tag.bean?.toList) (places pieces) := by
    apply cutsOut_useBean?.spread_render tame
    · intro tag isBean
      rw [Tag.ofBean?_chars (of_decide_eq_true isBean)]
    · intro tag noBean
      simp [Tag.bean?, of_decide_eq_false noBean]
  have spreadBeans (found : List (Nat × List Char)) :
      (found.filterMap fun place =>
          (Binding.ofBean? place.2).map fun binding => (place.1, binding)) =
        Text.spread (fun element => (Binding.ofBean? element).toList) found := by
    rw [List.filterMap_eq_flatMap_toList, Text.spread]
    congr 1
    funext place
    cases Binding.ofBean? place.2 <;> rfl
  calc Markup.bindings (render pieces)
      = ((Text.spread Binding.ofTag (Text.occurrences Binding.customTag? (render pieces)) ++
          (Text.occurrences Binding.useBean? (render pieces)).filterMap fun place =>
            (Binding.ofBean? place.2).map fun binding => (place.1, binding)).mergeSort
              Text.byPlace).map (·.2) := rfl
    _ = (Text.spread Tag.bindings (places pieces)).map (·.2) := by
        rw [spreadBeans, ofTags, ofBeans, Text.mergeSort_spread (places_increasing pieces)]
        rfl
    _ = (tags pieces).flatMap Tag.bindings := by
        rw [Text.map_snd_spread, tags, List.flatMap_map]

/-- `<c:forEach items="${names}" var="name" varStatus=" row ">`. -/
def loopTag : Tag where
  space := ⟨"c".toList, by decide, by decide⟩
  name := ⟨"forEach".toList, by decide, by decide⟩
  attributes :=
    [(.single, .of .double "items".toList "$\x7bnames\x7d".toList (by decide) (by decide)),
      (.single, .of .double "var".toList "name".toList (by decide) (by decide)),
      (.single, .of .double "varStatus".toList " row ".toList (by decide) (by decide))]
  doubleQuoted := by decide
  gap := .none
  slash := false

/-- `<jsp:useBean id="cart" class="shop.Cart"/>`. -/
def beanTag : Tag where
  space := ⟨"jsp".toList, by decide, by decide⟩
  name := ⟨"useBean".toList, by decide, by decide⟩
  attributes :=
    [(.single, .of .double "id".toList "cart".toList (by decide) (by decide)),
      (.single, .of .double "class".toList "shop.Cart".toList (by decide) (by decide))]
  doubleQuoted := by decide
  gap := .none
  slash := true

/-- A loop and a bean declaration with text between them bind three
variables. -/
theorem bindings_render_loopTag_beanTag :
    let page : List Piece := [.tag loopTag, .text "in ".toList (by decide), .tag beanTag]
    (∀ tag ∈ tags page, tag.IsTame) ∧
      Markup.bindings (render page) =
        [{ name := "name", typeName := none, source := .tagAttribute },
          { name := "row", typeName := none, source := .tagAttribute },
          { name := "cart", typeName := some "shop.Cart", source := .bean }] := by
  intro page
  have tame : ∀ tag ∈ tags page, tag.IsTame := by decide
  refine ⟨tame, ?_⟩
  rw [bindings_render page tame]
  decide

/-- `<c:if test="${a > b}" var="x">`. -/
def comparisonTag : Tag where
  space := ⟨"c".toList, by decide, by decide⟩
  name := ⟨"if".toList, by decide, by decide⟩
  attributes :=
    [(.single, .of .double "test".toList "$\x7ba > b\x7d".toList (by decide) (by decide)),
      (.single, .of .double "var".toList "x".toList (by decide) (by decide))]
  doubleQuoted := by decide
  gap := .none
  slash := false

/-- `<c:out value="<jsp:useBean " id="x" class="y">`. -/
def quotingTag : Tag where
  space := ⟨"c".toList, by decide, by decide⟩
  name := ⟨"out".toList, by decide, by decide⟩
  attributes :=
    [(.single, .of .double "value".toList "<jsp:useBean ".toList (by decide) (by decide)),
      (.single, .of .double "id".toList "x".toList (by decide) (by decide)),
      (.single, .of .double "class".toList "y".toList (by decide) (by decide))]
  doubleQuoted := by decide
  gap := .none
  slash := false

/-- A variable behind a comparison is missed, and a value that opens a bean
declares one. -/
theorem bindings_render_ne :
    (tags [.tag comparisonTag]).flatMap Tag.bindings =
        [{ name := "x", typeName := none, source := .tagAttribute }] ∧
      Markup.bindings (render [.tag comparisonTag]) = [] ∧
      (tags [.tag quotingTag]).flatMap Tag.bindings = [] ∧
      Markup.bindings (render [.tag quotingTag]) =
        [{ name := "x", typeName := some "y", source := .bean }] := by
  decide +kernel

end TagPage
end Markup
end JspCompletion
