import JspCompletion.Signature
import JspCompletion.Proofs.Markup.Rendering
import JspCompletion.Proofs.Text.Blank
import JspCompletion.Proofs.Text.Bytes

/-!
# Reading back a printed signature

A signature is printed as its return type, its name and, between parentheses, its
arguments with commas between them.  White space may stand around the
parentheses, the arguments and the commas, and has to stand behind the return
type.  Whatever follows, reading the text returns the signature.

No part of a printed signature can be read further than it reaches: an
identifier ends at the first character that cannot continue it, and neither white
space nor a dot, bracket or parenthesis can.
-/

namespace JspCompletion

namespace Signature

open Markup.Rendering (Blanks Gap)

/-! ## Printed signatures -/

/-- A word of ASCII letters, digits, `_` and `$` that does not begin with a
digit. -/
structure Identifier where
  /-- Its first character. -/
  first : Char
  /-- The other characters. -/
  others : List Char
  begins : first.isAlpha = true ∨ first = '_' ∨ first = '$'
  continues : ∀ char ∈ others, char.isAlphanum = true ∨ char = '_' ∨ char = '$'

namespace Identifier

/-- The characters of the identifier. -/
def chars (identifier : Identifier) : List Char :=
  identifier.first :: identifier.others

end Identifier

/-- A type, such as `java.lang.String[]`. -/
structure Qualified where
  /-- The first identifier. -/
  first : Identifier
  /-- The identifiers behind a dot. -/
  others : List Identifier
  /-- How many pairs of brackets follow. -/
  depth : Nat

/-- The characters of some pairs of brackets. -/
def pairs : (depth : Nat) → List Char
  | 0 => []
  | depth + 1 => '[' :: ']' :: pairs depth

/-- Identifiers, each behind a dot. -/
def dotted (identifiers : List Identifier) : List Char :=
  identifiers.flatMap fun identifier => '.' :: identifier.chars

/-- The characters of the type. -/
def Qualified.chars (type : Qualified) : List Char :=
  type.first.chars ++ (dotted type.others ++ pairs type.depth)

/-- The text of an argument. -/
structure Argument where
  /-- The characters. -/
  chars : List Char
  nonempty : chars ≠ []
  /-- No white space stands in front. -/
  begins : ∀ char ∈ chars.head?, Text.isBlank char = false
  /-- No white space stands at the end. -/
  ends : ∀ char ∈ chars.getLast?, Text.isBlank char = false
  unseparated : ',' ∉ chars
  unclosed : ')' ∉ chars

/-- An argument with the white space around it. -/
structure Placed where
  /-- The white space in front. -/
  before : Blanks
  /-- The argument. -/
  argument : Argument
  /-- The white space at the end. -/
  behind : Blanks

/-- The characters of the argument and around it. -/
def Placed.chars (placed : Placed) : List Char :=
  placed.before.chars ++ (placed.argument.chars ++ placed.behind.chars)

/-- A signature as it is printed. -/
structure Printed where
  /-- The return type. -/
  returnType : Qualified
  /-- The white space behind the return type. -/
  gap : Gap
  /-- The name of the function. -/
  name : Identifier
  /-- The white space in front of the opening parenthesis. -/
  before : Blanks
  /-- The white space behind the opening parenthesis. -/
  margin : Blanks
  /-- The arguments. -/
  arguments : List Placed

namespace Printed

/-- What stands between the parentheses. -/
def inner (printed : Printed) : List Char :=
  printed.margin.chars ++ [','].intercalate (printed.arguments.map Placed.chars)

/-- The characters of the printed signature. -/
def chars (printed : Printed) : List Char :=
  printed.returnType.chars ++ (printed.gap.chars ++ (printed.name.chars ++
    (printed.before.chars ++ '(' :: (printed.inner ++ [')']))))

/-- The signature that is printed. -/
def signature (printed : Printed) : Signature :=
  { returnType := String.ofList printed.returnType.chars
    name := String.ofList printed.name.chars
    argumentTypes := printed.arguments.map fun placed => String.ofList placed.argument.chars }

end Printed

/-! ## Where identifiers end -/

theorem isIdentifierRest_of_isBlank
    {char : Char}
    (blank : Text.isBlank char = true) :
    isIdentifierRest char = false := by
  have notDollar : char ≠ '$' := by
    rintro rfl
    cases blank
  rw [isIdentifierRest, Text.isWordChar_of_isBlank blank, Bool.false_or]
  exact beq_false_of_ne notDollar

theorem isIdentifierRest_of_class
    {char : Char}
    (inClass : char.isAlphanum = true ∨ char = '_' ∨ char = '$') :
    isIdentifierRest char = true := by
  rcases inClass with isAlphanum | rfl | rfl
  · have ascii : char.toNat < 0x80 := Text.lt_of_isAlphanum isAlphanum
    simp [isIdentifierRest, Text.isWordChar, ascii, isAlphanum]
  · decide
  · decide

/-- White space in front of a character that ends an identifier ends it as well. -/
theorem Blanks.stops
    (blanks : Blanks)
    {mark : Char}
    {rest : List Char}
    (ends : isIdentifierRest mark = false) :
    ∀ char ∈ (blanks.chars ++ mark :: rest).head?, isIdentifierRest char = false := by
  intro char first
  cases split : blanks.chars with
  | nil =>
      rw [split] at first
      cases first
      exact ends
  | cons blank others =>
      rw [split] at first
      cases first
      exact isIdentifierRest_of_isBlank (blanks.blank char (by simp [split]))

namespace Identifier

variable (identifier : Identifier) {rest : List Char}

theorem isIdentifierStart_first : isIdentifierStart identifier.first = true := by
  simpa [isIdentifierStart, or_assoc] using identifier.begins

/-- No identifier begins with white space. -/
theorem isBlank_first : Text.isBlank identifier.first = false := by
  have continues : isIdentifierRest identifier.first = true := by
    apply isIdentifierRest_of_class
    exact identifier.begins.imp_left fun isAlpha => by simp [Char.isAlphanum, isAlpha]
  rw [← Bool.not_eq_true]
  intro blank
  rw [isIdentifierRest_of_isBlank blank] at continues
  cases continues

theorem isIdentifierRest_of_mem_others :
    ∀ char ∈ identifier.others, isIdentifierRest char = true :=
  fun char member => isIdentifierRest_of_class (identifier.continues char member)

/-- An identifier is read up to a character that cannot continue it. -/
theorem identifier?_append
    (stops : ∀ char ∈ rest.head?, isIdentifierRest char = false) :
    identifier? (identifier.chars ++ rest) = some (identifier.chars, rest) := by
  have inside := identifier.isIdentifierRest_of_mem_others
  rw [chars, List.cons_append, identifier?, if_pos identifier.isIdentifierStart_first,
    Text.takeWhile_append_of_stop inside stops, Text.dropWhile_append_of_stop inside stops]

end Identifier

/-! ## Return types -/

/-- Identifier characters are read one after the other. -/
theorem dottedFrom_append
    {chars : List Char}
    (inside : ∀ char ∈ chars, isIdentifierRest char = true)
    (current rest : List Char) :
    dottedFrom current (chars ++ rest) = dottedFrom (chars.reverse ++ current) rest := by
  induction chars generalizing current with
  | nil => rfl
  | cons char others inductionHypothesis =>
      have continues := inside char List.mem_cons_self
      have notDot : char ≠ '.' := by
        rintro rfl
        revert continues
        decide
      have step : dottedFrom current (char :: (others ++ rest)) =
          dottedFrom (char :: current) (others ++ rest) := by
        rw [dottedFrom]
        · exact if_pos continues
        · rintro _ _ rfl _
          exact notDot rfl
        · rintro rfl _
          exact notDot rfl
      rw [List.cons_append, step,
        inductionHypothesis (fun other member => inside other (List.mem_cons_of_mem _ member)),
        List.reverse_cons, List.append_assoc]
      rfl

/-- Identifiers behind dots are read up to a character that is no dot and cannot
continue an identifier. -/
theorem dottedFrom_dotted_append
    (identifiers : List Identifier)
    (current : List Char)
    {rest : List Char}
    (noDot : rest.head? ≠ some '.')
    (stops : ∀ char ∈ rest.head?, isIdentifierRest char = false) :
    dottedFrom current (dotted identifiers ++ rest) =
      some (current.reverse ++ dotted identifiers, rest) := by
  induction identifiers generalizing current with
  | nil =>
      cases rest with
      | nil => simp [dotted, dottedFrom]
      | cons char others =>
          have ends := stops char rfl
          have notDot : char ≠ '.' := by
            rintro rfl
            exact noDot rfl
          rw [dotted, List.flatMap_nil, List.nil_append, dottedFrom, ends]
          · simp
          · rintro _ _ rfl _
            exact notDot rfl
          · rintro rfl _
            exact notDot rfl
  | cons identifier identifiers inductionHypothesis =>
      have split : dotted (identifier :: identifiers) ++ rest =
          '.' :: identifier.first :: (identifier.others ++ (dotted identifiers ++ rest)) := by
        simp [dotted, Identifier.chars]
      rw [split, dottedFrom, if_pos identifier.isIdentifierStart_first,
        dottedFrom_append identifier.isIdentifierRest_of_mem_others, inductionHypothesis]
      simp [dotted, Identifier.chars]

/-- Pairs of brackets are read up to something else. -/
theorem brackets_pairs_append
    (depth : Nat)
    {rest : List Char}
    (stops : rest.head? ≠ some '[') :
    brackets (pairs depth ++ rest) = (pairs depth, rest) := by
  induction depth with
  | zero =>
      rw [pairs, List.nil_append, brackets]
      rintro others rfl
      exact stops rfl
  | succ depth inductionHypothesis =>
      simp only [pairs, List.cons_append, brackets, inductionHypothesis]

/-- A type is read up to the white space behind it. -/
theorem Qualified.qualifiedType?_append
    (type : Qualified)
    {blank : Char}
    (isBlank : Text.isBlank blank = true)
    (rest : List Char) :
    qualifiedType? (type.chars ++ blank :: rest) = some (type.chars, blank :: rest) := by
  have noMark (mark : Char) (visible : Text.isBlank mark = false) : blank ≠ mark := by
    rintro rfl
    rw [isBlank] at visible
    cases visible
  have names : dottedFrom [type.first.first]
        (type.first.others ++ (dotted type.others ++ (pairs type.depth ++ blank :: rest))) =
      some (type.first.chars ++ dotted type.others, pairs type.depth ++ blank :: rest) := by
    rw [dottedFrom_append type.first.isIdentifierRest_of_mem_others, dottedFrom_dotted_append]
    · simp [Identifier.chars]
    · cases type.depth with
      | zero => simpa [pairs] using noMark '.' (by decide)
      | succ depth => simp [pairs]
    · cases type.depth with
      | zero => simpa [pairs] using isIdentifierRest_of_isBlank isBlank
      | succ depth =>
          rintro char ⟨⟩
          decide
  have noBracket : (blank :: rest).head? ≠ some '[' := by
    simpa using noMark '[' (by decide)
  have array := brackets_pairs_append type.depth noBracket
  have split : type.chars ++ blank :: rest = type.first.first ::
      (type.first.others ++ (dotted type.others ++ (pairs type.depth ++ blank :: rest))) := by
    simp [chars, Identifier.chars]
  rw [split, qualifiedType?, if_pos type.first.isIdentifierStart_first, names]
  simp [array, chars]

/-! ## Arguments -/

theorem Placed.unseparated (placed : Placed) : ',' ∉ placed.chars := by
  have before : ',' ∉ placed.before.chars := placed.before.not_mem (by decide)
  have behind : ',' ∉ placed.behind.chars := placed.behind.not_mem (by decide)
  simp [chars, before, behind, placed.argument.unseparated]

theorem Placed.unclosed (placed : Placed) : ')' ∉ placed.chars := by
  have before : ')' ∉ placed.before.chars := placed.before.not_mem (by decide)
  have behind : ')' ∉ placed.behind.chars := placed.behind.not_mem (by decide)
  simp [chars, before, behind, placed.argument.unclosed]

/-- What is neither in a separator nor in a piece is not in their row. -/
theorem not_mem_intercalate
    {separator : List Char}
    {pieces : List (List Char)}
    {char : Char}
    (notSeparator : char ∉ separator)
    (notPiece : ∀ piece ∈ pieces, char ∉ piece) :
    char ∉ separator.intercalate pieces := by
  induction pieces with
  | nil => simp
  | cons piece others inductionHypothesis =>
      have notFirst := notPiece piece List.mem_cons_self
      have notLater := inductionHypothesis fun other member =>
        notPiece other (List.mem_cons_of_mem _ member)
      cases others with
      | nil => simpa using notFirst
      | cons next others => simp [List.intercalate_cons_cons, notFirst, notSeparator, notLater]

theorem Placed.trim_chars (placed : Placed) : Text.trim placed.chars = placed.argument.chars :=
  Text.trim_surrounded placed.argument.nonempty placed.argument.begins placed.argument.ends
    placed.before.blank placed.behind.blank

/-- Arguments with commas between them are read one by one. -/
theorem arguments_intercalate
    (placed : List Placed)
    (nonempty : placed ≠ []) :
    arguments ([','].intercalate (placed.map Placed.chars)) =
      placed.map fun item => String.ofList item.argument.chars := by
  have unseparated : ∀ piece ∈ placed.map Placed.chars, ',' ∉ piece := by
    intro piece member
    obtain ⟨item, _, rfl⟩ := List.mem_map.mp member
    exact item.unseparated
  have trimmed : (placed.map Placed.chars).map Text.trim =
      placed.map fun item => item.argument.chars := by
    rw [List.map_map]
    exact List.map_congr_left fun item _ => item.trim_chars
  have kept : (placed.map fun item => item.argument.chars).filter (· != []) =
      placed.map fun item => item.argument.chars := by
    rw [List.filter_eq_self]
    intro chars member
    obtain ⟨item, _, rfl⟩ := List.mem_map.mp member
    exact bne_iff_ne.mpr item.argument.nonempty
  rw [arguments, List.splitOn_intercalate ',' unseparated (by simpa),
    trimmed, kept, List.map_map]
  rfl

/-- The argument with more white space in front. -/
def Placed.shifted (margin : Blanks) (placed : Placed) : Placed :=
  { placed with
    before :=
      { chars := margin.chars ++ placed.before.chars
        blank := by
          intro char member
          rcases List.mem_append.mp member with outer | inner
          · exact margin.blank char outer
          · exact placed.before.blank char inner } }

namespace Printed

variable (printed : Printed)

/-- The white space behind the opening parenthesis belongs to the first argument, or
makes an empty one. -/
theorem arguments_inner :
    Signature.arguments printed.inner =
      printed.arguments.map fun placed => String.ofList placed.argument.chars := by
  rw [inner]
  cases printed.arguments with
  | nil =>
      have absent : ∀ piece ∈ [printed.margin.chars], ',' ∉ piece := by
        simpa using printed.margin.not_mem (by decide)
      have pieces := List.splitOn_intercalate ',' absent (by simp)
      have blank : Text.trim printed.margin.chars = [] :=
        (Text.trim_eq_nil_iff _).mpr (List.all_eq_true.mpr printed.margin.blank)
      simp only [List.intercalate_singleton] at pieces
      simp [Signature.arguments, pieces, blank]
  | cons first others =>
      have moved : printed.margin.chars ++
            [','].intercalate ((first :: others).map Placed.chars) =
          [','].intercalate ((first.shifted printed.margin :: others).map Placed.chars) := by
        cases others <;> simp [Placed.shifted, Placed.chars, List.intercalate_cons_cons]
      rw [moved, arguments_intercalate _ (List.cons_ne_nil _ _)]
      rfl

theorem unclosed_inner : ')' ∉ printed.inner := by
  rw [inner, List.mem_append, not_or]
  refine ⟨printed.margin.not_mem (by decide), not_mem_intercalate (by decide) ?_⟩
  intro piece member
  obtain ⟨placed, _, rfl⟩ := List.mem_map.mp member
  exact placed.unclosed

/-- A printed signature is read as a whole, and what follows is left. -/
theorem recognize?_append (rest : List Char) :
    recognize? (printed.chars ++ rest) = some (printed.signature, rest) := by
  obtain ⟨blank, gap, gapEq⟩ := List.exists_cons_of_ne_nil printed.gap.nonempty
  have isBlank : Text.isBlank blank = true :=
    printed.gap.blank blank (gapEq ▸ List.mem_cons_self)
  let list : List Char := '(' :: (printed.inner ++ ')' :: rest)
  have text : printed.chars ++ rest = printed.returnType.chars ++
      (printed.gap.chars ++ (printed.name.chars ++ (printed.before.chars ++ list))) := by
    simp [chars, list]
  have returnType : qualifiedType? (printed.chars ++ rest) = some (printed.returnType.chars,
      printed.gap.chars ++ (printed.name.chars ++ (printed.before.chars ++ list))) := by
    rw [text, gapEq]
    exact printed.returnType.qualifiedType?_append isBlank _
  have gap : Text.afterBlanks?
        (printed.gap.chars ++ (printed.name.chars ++ (printed.before.chars ++ list))) =
      some (printed.name.chars ++ (printed.before.chars ++ list)) := by
    apply printed.gap.afterBlanks?_append
    rintro char ⟨⟩
    exact printed.name.isBlank_first
  have name : identifier? (printed.name.chars ++ (printed.before.chars ++ list)) =
      some (printed.name.chars, printed.before.chars ++ list) :=
    printed.name.identifier?_append (Blanks.stops printed.before (by decide))
  have parenthesis : Text.after? ['('] (Text.trimStart (printed.before.chars ++ list)) =
      some (printed.inner ++ ')' :: rest) := by
    rw [Text.trimStart, Text.dropWhile_append_of_stop printed.before.blank]
    · exact Text.after?_append ['('] _
    · rintro char ⟨⟩
      decide
  simp only [recognize?, returnType, gap, name, parenthesis, Option.bind_eq_bind,
    Option.bind_some, Text.dropWhile_append_mark printed.unclosed_inner,
    Text.takeWhile_append_mark printed.unclosed_inner, printed.arguments_inner]
  rfl

end Printed

/-- Reading undoes printing.  Whatever stands behind it and however the white space
is laid out, the text of a printed signature is read as exactly its return type,
its name and its arguments. -/
theorem ofText?_printed
    (printed : Printed)
    (rest : List Char) :
    ofText? (String.ofList (printed.chars ++ rest)) =
      some
        { returnType := String.ofList printed.returnType.chars
          name := String.ofList printed.name.chars
          argumentTypes :=
            printed.arguments.map fun placed => String.ofList placed.argument.chars } := by
  have found := printed.recognize?_append rest
  rw [ofText?, String.toList_ofList]
  -- The search tries the start of the text first.
  cases text : printed.chars ++ rest with
  | nil =>
      rw [text] at found
      cases found
  | cons char others =>
      rw [text] at found
      rw [Text.firstValue?, found]
      rfl

/-- White space of some spaces. -/
def spaces (count : Nat) : Blanks where
  chars := List.replicate count ' '
  blank := by
    intro char member
    rw [List.eq_of_mem_replicate member]
    rfl

/-- Splitting a text, with white space around the arguments. -/
def sampleSplit : Printed where
  returnType :=
    { first := ⟨'j', "ava".toList, .inl rfl, by simp⟩
      others := [⟨'l', "ang".toList, .inl rfl, by simp⟩, ⟨'S', "tring".toList, .inl rfl, by simp⟩]
      depth := 1 }
  gap := ⟨spaces 1, by decide⟩
  name := ⟨'s', "plit".toList, .inl rfl, by simp⟩
  before := spaces 0
  margin := spaces 1
  arguments :=
    [ { before := spaces 0
        argument :=
          { chars := "java.lang.String".toList
            nonempty := by decide
            begins := by rintro _ ⟨⟩; rfl
            ends := by rintro _ ⟨⟩; rfl
            unseparated := by decide
            unclosed := by decide }
        behind := spaces 1 },
      { before := spaces 1
        argument :=
          { chars := "int".toList
            nonempty := by decide
            begins := by rintro _ ⟨⟩; rfl
            ends := by rintro _ ⟨⟩; rfl
            unseparated := by decide
            unclosed := by decide }
        behind := spaces 1 } ]

theorem sampleSplit_reads_back :
    ofText? "java.lang.String[] split( java.lang.String , int ) throws Exception" =
      some ⟨"java.lang.String[]", "split", ["java.lang.String", "int"]⟩ := by
  have text : String.ofList (sampleSplit.chars ++ " throws Exception".toList) =
      "java.lang.String[] split( java.lang.String , int ) throws Exception" := by
    decide
  rw [← text]
  exact ofText?_printed sampleSplit " throws Exception".toList

end Signature
end JspCompletion
