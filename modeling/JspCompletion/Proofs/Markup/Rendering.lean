import JspCompletion.Proofs.Markup.Directive

/-!
# Reading back a rendered page

A page is put together from taglib directives, include directives, namespace
declarations and filler text.  A scan of its text returns the declarations and
the included files of the page, provided that filler texts which stand next to
each other do not spell the beginning of a namespace declaration.

Directives begin with a bracket, and no item has another one, so only the
beginnings of the items are of interest to the searches for directives.  The
search for namespaces may find its word `xmlns:` anywhere.  It cannot run across
the border of an item, because no item that is not filler ends or begins in the
middle of the word.
-/

namespace JspCompletion
namespace Markup
namespace Rendering

/-- No namespace declaration begins in the text. -/
def IsFree (chars : List Char) : Prop :=
  ¬"xmlns:".toList <:+: chars

instance (chars : List Char) : Decidable (IsFree chars) :=
  inferInstanceAs (Decidable ¬"xmlns:".toList <:+: chars)

/-! ## Items -/

/-- Blank characters. -/
structure Blanks where
  /-- The characters. -/
  chars : List Char
  blank : ∀ char ∈ chars, Text.isBlank char = true

/-- Blank characters that separate two parts of a directive. -/
structure Gap extends Blanks where
  nonempty : chars ≠ []

/-- The value of an attribute. -/
structure Value where
  /-- The characters between the quotes. -/
  chars : List Char
  unquoted : '"' ∉ chars
  unbracketed : '<' ∉ chars
  free : IsFree chars

/-- The name of an XML namespace. -/
structure Name where
  /-- The characters. -/
  chars : List Char
  nonempty : chars ≠ []
  unbroken : ∀ char ∈ chars, char ≠ '=' ∧ Text.isBlank char = false
  unquoted : '"' ∉ chars
  unbracketed : '<' ∉ chars

/-- Text between declarations. -/
structure Filler where
  /-- The characters. -/
  chars : List Char
  unbracketed : '<' ∉ chars
  free : IsFree chars

/-- The two ways to write a directive. -/
inductive Spelling where
  /-- `<%@ word … %>`, with a gap in front of the word. -/
  | marked (gap : Gap)
  /-- `<jsp:directive.word … />`. -/
  | element

/-- What stands between the opening bracket and the attributes. -/
def Spelling.lead : Spelling → String → List Char
  | marked gap, word => "%@".toList ++ (gap.chars ++ word.toList)
  | element, word => ("jsp:directive." ++ word).toList

/-- The character in front of the closing bracket. -/
def Spelling.mark : Spelling → Char
  | marked _ => '%'
  | element => '/'

/-- A directive around the text of its attributes. -/
def Spelling.frame
    (spelling : Spelling)
    (word : String)
    (inner : List Char)
    (margin : Blanks) : List Char :=
  '<' :: (spelling.lead word ++ (inner ++ (margin.chars ++ [spelling.mark, '>'])))

/-- The attribute with a name and a value. -/
def Value.named (value : Value) (name : String) : Attribute :=
  { name, value := String.ofList value.chars }

/-- The text of the attribute with a name and a value. -/
def written (name : String) (value : Value) : List Char :=
  (value.named name).chars

/-- An attribute of a taglib directive. -/
structure Part where
  /-- The name. -/
  name : String
  /-- The value. -/
  value : Value
  isName : name = "prefix" ∨ name = "uri"

namespace Part

/-- The text of the attribute. -/
def chars (part : Part) : List Char :=
  written part.name part.value

/-- The attribute as it is read. -/
def read (part : Part) : Attribute :=
  part.value.named part.name

/-- The attribute that gives the namespace. -/
def boundTo (value : Value) : Part :=
  { name := "prefix", value, isName := .inl rfl }

/-- The attribute that gives the uri. -/
def uri (value : Value) : Part :=
  { name := "uri", value, isName := .inr rfl }

end Part

/-- A taglib directive. -/
def Spelling.taglib
    (spelling : Spelling)
    (before : Gap)
    (first : Part)
    (between : Gap)
    (second : Part)
    (margin : Blanks) : List Char :=
  spelling.frame "taglib"
    (before.chars ++ (first.chars ++ (between.chars ++ second.chars))) margin

/-- A part of a page. -/
inductive Item where
  /-- A taglib directive, its attributes in either order. -/
  | library (spelling : Spelling) (uriFirst : Bool) (before between : Gap) (margin : Blanks)
      (boundTo uri : Value)
  /-- An include directive. -/
  | inclusion (spelling : Spelling) (before : Gap) (margin : Blanks) (file : Value)
  /-- A namespace declaration. -/
  | binding (name : Name) (uri : Value) (nonempty : uri.chars ≠ [])
  /-- Other text. -/
  | filler (text : Filler)

namespace Item

/-- The text of an item. -/
def chars : Item → List Char
  | library spelling uriFirst before between margin boundTo uri =>
      if uriFirst then
        spelling.taglib before (.uri uri) between (.boundTo boundTo) margin
      else
        spelling.taglib before (.boundTo boundTo) between (.uri uri) margin
  | inclusion spelling before margin file =>
      spelling.frame "include" (before.chars ++ written "file" file) margin
  | binding name uri _ => written ("xmlns:" ++ String.ofList name.chars) uri
  | filler text => text.chars

/-- The library declared by a directive. -/
def directive? : Item → Option Declaration
  | library _ _ _ _ _ boundTo uri =>
      some { boundTo := String.ofList boundTo.chars, uri := String.ofList uri.chars }
  | _ => none

/-- The library declared as a namespace. -/
def binding? : Item → Option Declaration
  | binding name uri _ =>
      some { boundTo := String.ofList name.chars, uri := String.ofList uri.chars }
  | _ => none

/-- The included file. -/
def file? : Item → Option String
  | inclusion _ _ _ file => some (String.ofList file.chars)
  | _ => none

end Item

/-- The text of a page. -/
def render (items : List Item) : List Char :=
  items.flatMap Item.chars

/-- What the items of a page declare and include. -/
def declared (items : List Item) : FileScan :=
  { directives := items.filterMap Item.directive?
    namespaces := items.filterMap Item.binding?
    includes := items.filterMap Item.file? }

/-- The filler text at the front of a page, neighbouring texts taken
together. -/
def leadingFiller : List Item → List Char
  | .filler text :: items => text.chars ++ leadingFiller items
  | _ => []

/-- No namespace declaration begins where filler texts meet. -/
def Apart : List Item → Prop
  | [] => True
  | item :: items => IsFree (leadingFiller (item :: items)) ∧ Apart items

instance : (items : List Item) → Decidable (Apart items)
  | [] => inferInstanceAs (Decidable True)
  | item :: items =>
      let _ := instDecidableApart items
      inferInstanceAs (Decidable (IsFree (leadingFiller (item :: items)) ∧ Apart items))

/-! ## Attributes and directives -/

section Parts

variable {rest : List Char}

theorem Blanks.not_mem
    (blanks : Blanks)
    {char : Char}
    (visible : Text.isBlank char = false) :
    char ∉ blanks.chars := by
  intro member
  rw [blanks.blank char member] at visible
  cases visible

theorem Gap.afterBlanks?_append
    (gap : Gap)
    (stops : ∀ char ∈ rest.head?, Text.isBlank char = false) :
    Text.afterBlanks? (gap.chars ++ rest) = some rest :=
  Text.afterBlanks?_eq_some_iff.mpr ⟨gap.chars, gap.nonempty, gap.blank, stops, rfl⟩

theorem Value.quoted?_append (value : Value) :
    Text.quoted? ('"' :: (value.chars ++ '"' :: rest)) = some (value.chars, rest) :=
  Text.quoted?_eq_some_iff.mpr ⟨value.unquoted, rfl⟩

theorem written_append (name : String) (value : Value) (rest : List Char) :
    written name value ++ rest =
      name.toList ++ '=' :: '"' :: (value.chars ++ '"' :: rest) := by
  simp [written, Value.named, Attribute.chars]

/-- A text whose first character is visible ends a gap. -/
theorem isBlank_head_append
    {first : Char}
    {word tail : List Char}
    (begins : word = first :: tail)
    (visible : Text.isBlank first = false) :
    ∀ char ∈ (word ++ rest).head?, Text.isBlank char = false := by
  rw [begins]
  rintro char ⟨⟩
  exact visible

theorem Part.isPart (part : Part) : Declaration.IsPart part.read :=
  ⟨part.isName, by simpa [Part.read, Value.named] using part.value.unquoted⟩

theorem Part.isBlank_head (part : Part) :
    ∀ char ∈ (part.chars ++ rest).head?, Text.isBlank char = false :=
  part.isPart.isBlank_head rest

theorem Part.part?_append (part : Part) :
    Declaration.part? (part.chars ++ rest) = some (part.read, rest) :=
  Declaration.part?_eq_some_iff.mpr ⟨part.isPart, rfl⟩

/-- Behind the opening of a directive, its word is compared with the word that
is looked for. -/
theorem opening?_lead
    (spelling : Spelling)
    (word other : String)
    (rest : List Char)
    (stops : ∀ char ∈ (other.toList ++ rest).head?, Text.isBlank char = false) :
    Declaration.opening? word ('<' :: (spelling.lead other ++ rest)) =
      Text.after? word.toList (other.toList ++ rest) := by
  cases spelling with
  | marked gap =>
      simp [Declaration.opening?, Spelling.lead, Text.after?, gap.afterBlanks?_append stops]
  | element =>
      simp [Declaration.opening?, Spelling.lead, Text.after?]

theorem parts?_taglib
    (spelling : Spelling)
    (before between : Gap)
    (first second : Part)
    (rest : List Char) :
    Declaration.parts? ('<' :: (spelling.lead "taglib" ++
        ((before.chars ++ (first.chars ++ (between.chars ++ second.chars))) ++ rest))) =
      some ((first.read, second.read), rest) := by
  simp only [List.append_assoc]
  have opened := opening?_lead spelling "taglib" "taglib"
    (before.chars ++ (first.chars ++ (between.chars ++ (second.chars ++ rest))))
    (isBlank_head_append rfl (by decide))
  rw [Text.after?_append] at opened
  simp [Declaration.parts?, opened, before.afterBlanks?_append first.isBlank_head,
    first.part?_append, between.afterBlanks?_append second.isBlank_head, second.part?_append]

theorem include?_include
    (spelling : Spelling)
    (before : Gap)
    (file : Value)
    (rest : List Char) :
    Declaration.include? ('<' :: (spelling.lead "include" ++ ((before.chars ++
        written "file" file) ++ rest))) =
      some (String.ofList file.chars, rest) := by
  simp only [List.append_assoc]
  have opened := opening?_lead spelling "include" "include"
    (before.chars ++ (written "file" file ++ rest)) (isBlank_head_append rfl (by decide))
  rw [Text.after?_append] at opened
  have stops : ∀ char ∈ (written "file" file ++ rest).head?, Text.isBlank char = false := by
    rw [written_append]
    exact isBlank_head_append rfl (by decide)
  have named : Text.after? ['f', 'i', 'l', 'e', '='] (written "file" file ++ rest) =
      some ('"' :: (file.chars ++ '"' :: rest)) := by
    simp [written_append, Text.after?]
  simp [Declaration.include?, opened, before.afterBlanks?_append stops, named,
    file.quoted?_append]

theorem parts?_include
    (spelling : Spelling)
    (rest : List Char) :
    Declaration.parts? ('<' :: (spelling.lead "include" ++ rest)) = none := by
  have opened := opening?_lead spelling "taglib" "include" rest
    (isBlank_head_append rfl (by decide))
  simp [Declaration.parts?, opened, Text.after?]

theorem include?_taglib
    (spelling : Spelling)
    (rest : List Char) :
    Declaration.include? ('<' :: (spelling.lead "taglib" ++ rest)) = none := by
  have opened := opening?_lead spelling "include" "taglib" rest
    (isBlank_head_append rfl (by decide))
  simp [Declaration.include?, opened, Text.after?]

theorem namespace?_binding
    (name : Name)
    (uri : Value)
    (nonempty : uri.chars ≠ []) :
    Declaration.namespace? ((Item.binding name uri nonempty).chars ++ rest) =
      some ({ boundTo := String.ofList name.chars, uri := String.ofList uri.chars }, rest) := by
  have layout : (Item.binding name uri nonempty).chars ++ rest =
      "xmlns:".toList ++ (name.chars ++ '=' :: '"' :: (uri.chars ++ '"' :: rest)) := by
    simp [Item.chars, written_append]
  have inside : ∀ char ∈ name.chars, Declaration.isNamespaceChar char = true := by
    intro char member
    simp [Declaration.isNamespaceChar, name.unbroken char member]
  have stops : ∀ char ∈ ('=' :: '"' :: (uri.chars ++ '"' :: rest)).head?,
      Declaration.isNamespaceChar char = false := by
    rintro char ⟨⟩
    rfl
  have named := Text.takeWhile_append_of_stop inside stops
  have behind := Text.dropWhile_append_of_stop inside stops
  have isNamed : name.chars.isEmpty = false := List.isEmpty_eq_false_iff.mpr name.nonempty
  have isValued : uri.chars.isEmpty = false := List.isEmpty_eq_false_iff.mpr nonempty
  have sign : Text.after? ['='] ('=' :: '"' :: (uri.chars ++ '"' :: rest)) =
      some ('"' :: (uri.chars ++ '"' :: rest)) := Text.after?_append ['='] _
  rw [Declaration.namespace?, layout, Text.after?_append]
  simp only [Option.bind_eq_bind, Option.bind_some, named, behind, sign, uri.quoted?_append,
    isNamed, isValued, Bool.or_self, Bool.false_eq_true, if_false]

end Parts

/-! ## Where declarations begin -/

theorem bracket_of_opening?
    {word : String}
    {text tail : List Char}
    (opened : Declaration.opening? word text = some tail) :
    ['<'] <+: text := by
  unfold Declaration.opening? at opened
  split at opened
  · rename_i behind marked
    rw [Text.after?_eq_some_iff.mp marked]
    exact ⟨'%' :: '@' :: behind, rfl⟩
  · rw [Text.after?_eq_some_iff.mp opened, String.toList_append]
    exact ⟨"jsp:directive.".toList ++ word.toList ++ tail, by simp⟩

theorem beginWith_parts? : Text.BeginWith Declaration.parts? ['<'] := by
  intro text found recognized
  simp only [Declaration.parts?, Option.bind_eq_bind, Option.bind_eq_some_iff] at recognized
  obtain ⟨tail, opened, _⟩ := recognized
  exact bracket_of_opening? opened

theorem beginWith_include? : Text.BeginWith Declaration.include? ['<'] := by
  intro text found recognized
  simp only [Declaration.include?, Option.bind_eq_bind, Option.bind_eq_some_iff] at recognized
  obtain ⟨tail, opened, _⟩ := recognized
  exact bracket_of_opening? opened

theorem beginWith_namespace? : Text.BeginWith Declaration.namespace? "xmlns:".toList := by
  intro text found recognized
  simp only [Declaration.namespace?, Option.bind_eq_bind, Option.bind_eq_some_iff] at recognized
  obtain ⟨tail, opened, _⟩ := recognized
  exact ⟨tail, (Text.after?_eq_some_iff.mp opened).symm⟩

theorem isFree_of_not_mem
    {chars : List Char}
    (absent : 'm' ∉ chars) :
    IsFree chars := by
  intro found
  exact absent (found.mem (by decide))

theorem Spelling.not_mem_lead
    (spelling : Spelling)
    (char : Char)
    {word : String}
    (visible : Text.isBlank char = false)
    (foreign : char ∉ "%@jsp:directive.".toList)
    (absent : char ∉ word.toList) :
    char ∉ spelling.lead word := by
  cases spelling with
  | marked gap =>
      have unblank := gap.not_mem visible
      simp_all [Spelling.lead]
  | element => simp_all [Spelling.lead]

theorem unbracketed_written
    {name : String}
    (unbracketed : '<' ∉ name.toList)
    (value : Value) :
    '<' ∉ written name value := by
  simp [written, Value.named, Attribute.chars, unbracketed, value.unbracketed]

theorem Part.not_mem_name
    (part : Part)
    {char : Char}
    (foreign : char ∉ "prefixuri".toList) :
    char ∉ part.name.toList := by
  rcases part.isName with isName | isName
  · rw [isName]
    simp_all
  · rw [isName]
    simp_all

theorem Part.unbracketed (part : Part) : '<' ∉ part.chars :=
  unbracketed_written (part.not_mem_name (by decide)) part.value

/-- An attribute brings in no namespace declaration. -/
theorem isFree_written
    {front back : List Char}
    {name : String}
    (before : 'm' ∉ front)
    (named : 'm' ∉ name.toList)
    (value : Value)
    (behind : IsFree back) :
    IsFree (front ++ (written name value ++ back)) := by
  have opening : IsFree (front ++ (name.toList ++ ['='])) := by
    apply isFree_of_not_mem
    simp [before, named]
  have closing : IsFree (value.chars ++ '"' :: back) :=
    Text.not_infix_append_cons (by decide) value.free behind
  have split : front ++ (written name value ++ back) =
      (front ++ (name.toList ++ ['='])) ++ '"' :: (value.chars ++ '"' :: back) := by
    simp [written_append]
  rw [split]
  exact Text.not_infix_append_cons (by decide) opening closing

theorem Part.isFree
    {front back : List Char}
    (part : Part)
    (before : 'm' ∉ front)
    (behind : IsFree back) :
    IsFree (front ++ (part.chars ++ back)) :=
  isFree_written before (part.not_mem_name (by decide)) part.value behind

/-! ## Searches over a directive -/

section Frames

variable {recognize? : List Char → Option (α × List Char)}
variable {word : String} {inner rest : List Char}
variable (spelling : Spelling) (before : Gap) (margin : Blanks)

theorem Spelling.unbracketed_end : '<' ∉ margin.chars ++ [spelling.mark, '>'] := by
  have noMargin : '<' ∉ margin.chars := margin.not_mem (by decide)
  cases spelling <;> simp [Spelling.mark, noMargin]

theorem Spelling.not_mem_opening
    (foreign : 'm' ∉ word.toList) :
    'm' ∉ '<' :: (spelling.lead word ++ before.chars) := by
  have noLead := spelling.not_mem_lead 'm' (by decide) (by decide) foreign
  have noBefore : 'm' ∉ before.chars := before.not_mem (by decide)
  simp [noLead, noBefore]

theorem Spelling.not_mem_closing : 'm' ∉ margin.chars ++ [spelling.mark] := by
  have noMargin : 'm' ∉ margin.chars := margin.not_mem (by decide)
  cases spelling <;> simp [Spelling.mark, noMargin]

/-- A directive that is looked for is found once. -/
theorem valuesOf_frame_of_some
    {value : α}
    (begins : Text.BeginWith recognize? ['<'])
    (found : ∀ tail, recognize? ('<' :: (spelling.lead word ++ (inner ++ tail))) =
      some (value, tail)) :
    Text.valuesOf recognize? (spelling.frame word inner margin ++ rest) =
      value :: Text.valuesOf recognize? rest := by
  have split : spelling.frame word inner margin ++ rest =
      ('<' :: (spelling.lead word ++ inner)) ++
        ((margin.chars ++ [spelling.mark, '>']) ++ rest) := by
    simp [Spelling.frame]
  rw [split, Text.valuesOf_append_of_some (List.cons_ne_nil _ _)
    (by simpa using found ((margin.chars ++ [spelling.mark, '>']) ++ rest))]
  rw [begins.valuesOf_append_of_not_mem (spelling.unbracketed_end margin)]

/-- A directive of another kind is passed over. -/
theorem valuesOf_frame_of_none
    (begins : Text.BeginWith recognize? ['<'])
    (other : ∀ tail, recognize? ('<' :: (spelling.lead word ++ tail)) = none)
    (unbracketedWord : '<' ∉ word.toList)
    (unbracketed : '<' ∉ inner) :
    Text.valuesOf recognize? (spelling.frame word inner margin ++ rest) =
      Text.valuesOf recognize? rest := by
  have noLead := spelling.not_mem_lead '<' (by decide) (by decide) unbracketedWord
  have noEnd := spelling.unbracketed_end margin
  have absent : '<' ∉ spelling.lead word ++ (inner ++ (margin.chars ++ [spelling.mark, '>'])) := by
    simp only [List.mem_append, not_or] at noEnd ⊢
    exact ⟨noLead, unbracketed, noEnd⟩
  rw [Spelling.frame, List.cons_append, Text.valuesOf_cons_of_none]
  · exact begins.valuesOf_append_of_not_mem absent
  · rw [List.append_assoc]
    exact other _

/-- A directive contains no namespace declaration.  Its closing bracket keeps
the search from going on into the rest. -/
theorem valuesOf_namespace?_frame
    (free : IsFree (('<' :: (spelling.lead word ++ before.chars)) ++
      (inner ++ (margin.chars ++ [spelling.mark])))) :
    Text.valuesOf Declaration.namespace?
        (spelling.frame word (before.chars ++ inner) margin ++ rest) =
      Text.valuesOf Declaration.namespace? rest := by
  have split : spelling.frame word (before.chars ++ inner) margin ++ rest =
      (('<' :: (spelling.lead word ++ before.chars)) ++
        (inner ++ (margin.chars ++ [spelling.mark]))) ++ (['>'] ++ rest) := by
    simp [Spelling.frame]
  have foreign : ∀ char ∈ (['>'] ++ rest).head?, char ∉ "mlns:".toList := by
    rintro char ⟨⟩
    decide
  have bracket : 'x' ∉ ['>'] := by decide
  rw [split, beginWith_namespace?.valuesOf_append_of_not_infix free foreign,
    beginWith_namespace?.valuesOf_append_of_not_mem bracket]

end Frames

/-! ## Searches over an item -/

section Items

variable {rest : List Char}
variable (spelling : Spelling) (before between : Gap) (first second : Part) (margin : Blanks)

theorem valuesOf_parts?_taglib :
    Text.valuesOf Declaration.parts?
        (spelling.taglib before first between second margin ++ rest) =
      (first.read, second.read) :: Text.valuesOf Declaration.parts? rest :=
  valuesOf_frame_of_some spelling margin beginWith_parts?
    (parts?_taglib spelling before between first second)

theorem valuesOf_include?_taglib :
    Text.valuesOf Declaration.include?
        (spelling.taglib before first between second margin ++ rest) =
      Text.valuesOf Declaration.include? rest := by
  apply valuesOf_frame_of_none spelling margin beginWith_include? (include?_taglib spelling)
  · decide
  · have noBefore : '<' ∉ before.chars := before.not_mem (by decide)
    have noBetween : '<' ∉ between.chars := between.not_mem (by decide)
    simp [noBefore, noBetween, first.unbracketed, second.unbracketed]

theorem valuesOf_namespace?_taglib :
    Text.valuesOf Declaration.namespace?
        (spelling.taglib before first between second margin ++ rest) =
      Text.valuesOf Declaration.namespace? rest := by
  apply valuesOf_namespace?_frame
  rw [List.append_assoc, List.append_assoc]
  apply first.isFree (spelling.not_mem_opening before (by decide))
  apply second.isFree (between.not_mem (by decide))
  exact isFree_of_not_mem (spelling.not_mem_closing margin)

theorem valuesOf_parts?_include (file : Value) :
    Text.valuesOf Declaration.parts?
        (spelling.frame "include" (before.chars ++ written "file" file) margin ++ rest) =
      Text.valuesOf Declaration.parts? rest := by
  apply valuesOf_frame_of_none spelling margin beginWith_parts? (parts?_include spelling)
  · decide
  · have noBefore : '<' ∉ before.chars := before.not_mem (by decide)
    have noFile : '<' ∉ written "file" file := unbracketed_written (by decide) file
    simp [noBefore, noFile]

theorem valuesOf_namespace?_include (file : Value) :
    Text.valuesOf Declaration.namespace?
        (spelling.frame "include" (before.chars ++ written "file" file) margin ++ rest) =
      Text.valuesOf Declaration.namespace? rest := by
  apply valuesOf_namespace?_frame
  apply isFree_written (spelling.not_mem_opening before (by decide)) (by decide) file
  exact isFree_of_not_mem (spelling.not_mem_closing margin)

theorem unbracketed_binding (name : Name) (uri : Value) (nonempty : uri.chars ≠ []) :
    '<' ∉ (Item.binding name uri nonempty).chars := by
  apply unbracketed_written
  simp [name.unbracketed]

end Items

namespace Item

variable {rest : List Char}

/-- The search for taglib directives reads a page item by item. -/
theorem directives_append (item : Item) :
    (scan (item.chars ++ rest)).directives =
      item.directive?.toList ++ (scan rest).directives := by
  simp only [scan]
  cases item with
  | library spelling uriFirst before between margin boundTo uri =>
      cases uriFirst <;>
        simp [chars, directive?, valuesOf_parts?_taglib, Declaration.ofParts?, Part.read,
          Part.boundTo, Part.uri, Value.named]
  | inclusion spelling before margin file =>
      rw [chars, valuesOf_parts?_include]
      rfl
  | binding name uri nonempty =>
      rw [beginWith_parts?.valuesOf_append_of_not_mem (unbracketed_binding name uri nonempty)]
      rfl
  | filler text =>
      rw [chars, beginWith_parts?.valuesOf_append_of_not_mem text.unbracketed]
      rfl

/-- The search for include directives reads a page item by item. -/
theorem includes_append (item : Item) :
    (scan (item.chars ++ rest)).includes = item.file?.toList ++ (scan rest).includes := by
  simp only [scan]
  cases item with
  | library spelling uriFirst before between margin boundTo uri =>
      cases uriFirst <;> simp [chars, file?, valuesOf_include?_taglib]
  | inclusion spelling before margin file =>
      exact valuesOf_frame_of_some spelling margin beginWith_include?
        (include?_include spelling before file)
  | binding name uri nonempty =>
      rw [beginWith_include?.valuesOf_append_of_not_mem (unbracketed_binding name uri nonempty)]
      rfl
  | filler text =>
      rw [chars, beginWith_include?.valuesOf_append_of_not_mem text.unbracketed]
      rfl

/-- The item is filler text. -/
def IsFiller : Item → Prop
  | filler _ => True
  | _ => False

/-- The search for namespaces reads the items other than filler one by one. -/
theorem namespaces_append
    (item : Item)
    (notFiller : ¬item.IsFiller) :
    (scan (item.chars ++ rest)).namespaces = item.binding?.toList ++ (scan rest).namespaces := by
  simp only [scan]
  cases item with
  | library spelling uriFirst before between margin boundTo uri =>
      cases uriFirst <;> simp [chars, binding?, valuesOf_namespace?_taglib]
  | inclusion spelling before margin file =>
      rw [chars, valuesOf_namespace?_include]
      rfl
  | binding name uri nonempty =>
      apply Text.valuesOf_append_of_some _ (namespace?_binding name uri nonempty)
      simp [chars, written, Attribute.chars]
  | filler text => exact absurd trivial notFiller

/-- An item other than filler does not begin in the middle of `xmlns:`. -/
theorem head_not_mem
    (item : Item)
    (notFiller : ¬item.IsFiller) :
    ∀ char ∈ (item.chars ++ rest).head?, char ∉ "mlns:".toList := by
  cases item with
  | library spelling uriFirst before between margin boundTo uri =>
      cases uriFirst <;>
      · rintro char ⟨⟩
        decide
  | inclusion spelling before margin file =>
      rintro char ⟨⟩
      decide
  | binding name uri nonempty =>
      intro char first
      obtain rfl : 'x' = char := by simpa [chars, written_append] using first
      decide
  | filler text => exact absurd trivial notFiller

end Item

/-! ## Reading back -/

/-- What is read item by item is read off the list of items. -/
theorem read_render
    (read : List Char → List α)
    {value? : Item → Option α}
    (empty : read [] = [])
    (step : ∀ item rest, read (item.chars ++ rest) = (value? item).toList ++ read rest)
    (items : List Item) :
    read (render items) = items.filterMap value? := by
  rw [List.filterMap_eq_flatMap_toList]
  induction items with
  | nil => exact empty
  | cons item items inductionHypothesis =>
      rw [render, List.flatMap_cons, step, List.flatMap_cons, ← inductionHypothesis, render]

theorem leadingFiller_of_not_filler
    {item : Item}
    (notFiller : ¬item.IsFiller)
    (items : List Item) :
    leadingFiller (item :: items) = [] := by
  cases item with
  | filler text => exact absurd trivial notFiller
  | _ => rfl

theorem Apart.leading {items : List Item} (apart : Apart items) :
    IsFree (leadingFiller items) := by
  cases items with
  | nil => exact isFree_of_not_mem List.not_mem_nil
  | cons item items => exact apart.1

/-- The search for namespaces over a page.  The filler text in front of the
page is carried along: only where its run ends is it known what the search
finds in it. -/
theorem namespaces_append_render
    (items : List Item)
    (front : List Char)
    (free : IsFree (front ++ leadingFiller items))
    (apart : Apart items) :
    (scan (front ++ render items)).namespaces = items.filterMap Item.binding? := by
  induction items generalizing front with
  | nil =>
      have ends : ∀ char ∈ (render []).head?, char ∉ "mlns:".toList := by
        rintro char ⟨⟩
      have alone : IsFree front := by simpa [leadingFiller] using free
      exact beginWith_namespace?.valuesOf_append_of_not_infix alone ends
  | cons item items inductionHypothesis =>
      by_cases isFiller : item.IsFiller
      · cases item with
        | filler text =>
            rw [render, List.flatMap_cons, ← List.append_assoc]
            apply inductionHypothesis _ _ apart.2
            rwa [List.append_assoc]
        | _ => cases isFiller
      · have alone : IsFree front := by
          rwa [leadingFiller_of_not_filler isFiller, List.append_nil] at free
        have ends : ∀ char ∈ (item.chars ++ render items).head?, char ∉ "mlns:".toList :=
          item.head_not_mem isFiller
        have passed : (scan (front ++ (item.chars ++ render items))).namespaces =
            (scan (item.chars ++ render items)).namespaces :=
          beginWith_namespace?.valuesOf_append_of_not_infix alone ends
        have others : (scan (render items)).namespaces = items.filterMap Item.binding? :=
          inductionHypothesis [] apart.2.leading apart.2
        calc (scan (front ++ render (item :: items))).namespaces
            = (scan (front ++ (item.chars ++ render items))).namespaces := rfl
          _ = item.binding?.toList ++ (scan (render items)).namespaces := by
              rw [passed, item.namespaces_append isFiller]
          _ = (item :: items).filterMap Item.binding? := by
              rw [others, List.filterMap_eq_flatMap_toList, List.filterMap_eq_flatMap_toList,
                List.flatMap_cons]

/-- The scan of a page returns what its items declare and include, each list in
the order of the text. -/
theorem scan_render
    (items : List Item)
    (apart : Apart items) :
    scan (render items) = declared items := by
  have directives : (scan (render items)).directives = items.filterMap Item.directive? :=
    read_render (fun text => (scan text).directives) rfl (fun item _ => item.directives_append) items
  have namespaces : (scan (render items)).namespaces = items.filterMap Item.binding? :=
    namespaces_append_render items [] apart.leading apart
  have includes : (scan (render items)).includes = items.filterMap Item.file? :=
    read_render (fun text => (scan text).includes) rfl (fun item _ => item.includes_append) items
  rw [declared, ← directives, ← namespaces, ← includes]

/-- Filler texts side by side, directives in both spellings and both orders,
and no text between declarations. -/
def sampleItems : List Item :=
  let space : Gap := ⟨⟨[' '], List.all_eq_true.mp rfl⟩, by decide⟩
  let lines : Gap := ⟨⟨['\n', '\t'], List.all_eq_true.mp rfl⟩, by decide⟩
  let value : Value := ⟨['u', '>'], by decide, by decide, by decide⟩
  let empty : Value := ⟨[], by decide, by decide, by decide⟩
  let name : Name := ⟨['a'], by decide, List.forall_mem_singleton.mpr (by decide), by decide,
    by decide⟩
  [.filler ⟨"xml".toList, by decide, by decide⟩,
    .filler ⟨" xmlns".toList, by decide, by decide⟩,
    .binding name value (by decide),
    .library (.marked lines) true space lines ⟨[], nofun⟩ value empty,
    .inclusion .element space space.toBlanks value,
    .library .element false lines space space.toBlanks empty value]

/-- The scan of the sample page. -/
theorem scan_sampleItems :
    Apart sampleItems ∧ scan (render sampleItems) = declared sampleItems :=
  ⟨by decide, scan_render sampleItems (by decide)⟩

/-- Two filler texts that spell a namespace declaration together. -/
def meetingFillers : List Item :=
  [.filler ⟨"xmlns".toList, by decide, by decide⟩,
    .filler ⟨":a\"b=\"u\"".toList, by decide, by decide⟩]

/-- Where filler texts meet, the scan may find a declaration that is none of
the items. -/
theorem scan_meetingFillers : scan (render meetingFillers) ≠ declared meetingFillers := by
  decide

end Rendering
end Markup
end JspCompletion
