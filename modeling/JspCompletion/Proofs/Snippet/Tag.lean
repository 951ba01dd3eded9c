import JspCompletion.Proofs.Snippet.Expansion

/-!
# What is inserted for a tag

The snippet of a tag holds a tab stop for every required attribute, a free one
if there are optional attributes, and the final one.  This module writes down
the inserted text with the places of the stops, and shows that an editor reads
it out of the snippet, provided that no name holds a dollar sign or a backslash, which
open forms of snippets.  Types may hold anything.
-/

namespace JspCompletion

open Snippet

/-! ## Attributes -/

namespace TagAttribute

/-- The value is inserted between the delimiters of an expression. -/
def asExpression (attr : TagAttribute) : Bool :=
  attr.dynamic && attr.shortType != "String"

/-- What is inserted in front of the tab stop. -/
def insertedFront (attr : TagAttribute) : List Char :=
  attr.name.text.toList ++ '=' :: '"' :: (if attr.asExpression then ['$', '\x7b'] else [])

/-- What is inserted from the tab stop on. -/
def insertedBack (attr : TagAttribute) : List Char :=
  if attr.asExpression then
    attr.shortType.toList ++ ['\x7d', '"']
  else if attr.dynamic then
    "$\x7bString\x7d\"".toList
  else
    ['"']

/-- What is inserted for the attribute, behind a space. -/
def inserted (attr : TagAttribute) : List Char :=
  ' ' :: (attr.insertedFront ++ attr.insertedBack)

theorem read_valueSnippet
    (attr : TagAttribute)
    (index : Nat)
    {done : Expansion}
    {rest : List Char} :
    read 0 0 (done.add ['=', '"']) ((attr.valueSnippet index).toList ++ '"' :: rest) =
      read 0 0 (((done.add ('=' :: '"' ::
        (if attr.asExpression then ['$', '\x7b'] else []))).mark index).add
          attr.insertedBack) rest := by
  have plainQuote : ∀ char ∈ ['"'], isSpecial char = false := by
    simp [isSpecial]
  have quote {filled : Expansion} :
      read 0 0 filled ('"' :: rest) = read 0 0 (filled.add ['"']) rest :=
    read_plain plainQuote
  by_cases static : attr.dynamic = false
  · simp only [valueSnippet, insertedBack, asExpression, static, Bool.not_false, Bool.false_and,
      if_true, Bool.false_eq_true, if_false]
    rw [read_empty_stop index rfl, quote]
  · rw [Bool.not_eq_false] at static
    by_cases isText : attr.shortType = "String"
    · simp only [valueSnippet, insertedBack, asExpression, static, isText, Bool.not_true,
        Bool.false_eq_true, if_false, if_true, Bool.true_and, bne_self_eq_false]
      have filled : "$\x7b" ++ "String" ++ "\x7d" ≠ "" := by
        decide
      rw [read_stop index _ fun empty => absurd empty filled, quote, Expansion.add_add]
      rfl
    · have differs : (attr.shortType != "String") = true := bne_iff_ne.mpr isText
      simp only [valueSnippet, insertedBack, asExpression, static, isText, differs, Bool.not_true,
        Bool.false_eq_true, if_false, if_true, Bool.true_and]
      rw [read_inExpression fun tail notDigit => read_stop index _ fun _ => notDigit, quote]
      simp only [Expansion.add_add, List.append_assoc]
      rfl

theorem read_snippet
    (attr : TagAttribute)
    (unmarked : Unmarked attr.name.text.toList)
    (index : Nat)
    {done : Expansion}
    {rest : List Char} :
    read 0 0 done (' ' :: ((attr.snippet index).toList ++ rest)) =
      read 0 0 (((done.add (' ' :: attr.insertedFront)).mark index).add attr.insertedBack)
        rest := by
  have lead : Unmarked ([' '] ++ (attr.name.text.toList ++ ['=', '"'])) := by
    rw [unmarked_append, unmarked_append]
    exact ⟨by decide, unmarked, by decide⟩
  have textEq : ' ' :: ((attr.snippet index).toList ++ rest) =
      ([' '] ++ (attr.name.text.toList ++ ['=', '"'])) ++
        ((attr.valueSnippet index).toList ++ '"' :: rest) := by
    simp [snippet]
  have split : done.add ([' '] ++ (attr.name.text.toList ++ ['=', '"'])) =
      (done.add (' ' :: attr.name.text.toList)).add ['=', '"'] := by
    simp
  rw [textEq, read_unmarked lead, split, read_valueSnippet]
  simp [insertedFront]

end TagAttribute

namespace Snippet

/-- What is inserted for attributes, with tab stops from `index` on. -/
def Expansion.addAttributes : Expansion → (index : Nat) → List TagAttribute → Expansion
  | done, _, [] => done
  | done, index, attr :: rest =>
      (((done.add (' ' :: attr.insertedFront)).mark index).add
        attr.insertedBack).addAttributes (index + 1) rest

theorem Expansion.text_addAttributes
    (done : Expansion)
    (index : Nat)
    (attributes : List TagAttribute) :
    (done.addAttributes index attributes).text =
      done.text ++ attributes.flatMap (·.inserted) := by
  induction attributes generalizing done index with
  | nil => simp [addAttributes]
  | cons attr rest inductionHypothesis =>
      simp [addAttributes, inductionHypothesis, TagAttribute.inserted]

/-- Every attribute has one stop, behind the attributes in front of it. -/
theorem Expansion.mem_stops_addAttributes
    (done : Expansion)
    (index : Nat)
    (attributes : List TagAttribute)
    (stop : Stop) :
    stop ∈ (done.addAttributes index attributes).stops ↔
      stop ∈ done.stops ∨ ∃ front attr back, attributes = front ++ attr :: back ∧
        stop.index = index + front.length ∧
        stop.offset = Text.size (done.text ++ front.flatMap (·.inserted) ++
          ' ' :: attr.insertedFront) := by
  induction attributes generalizing done index with
  | nil => simp [addAttributes]
  | cons first rest inductionHypothesis =>
      rw [addAttributes, inductionHypothesis, stops_add, mem_stops_mark, stops_add, or_assoc]
      refine or_congr_right ?_
      constructor
      · rintro (⟨indexEq, offsetEq⟩ | ⟨front, attr, back, rfl, indexEq, offsetEq⟩)
        · exact ⟨[], first, rest, rfl, by simpa using indexEq, by simpa using offsetEq⟩
        · refine ⟨first :: front, attr, back, rfl, ?_, ?_⟩
          · rw [indexEq, List.length_cons]
            omega
          · rw [offsetEq]
            simp [TagAttribute.inserted]
      · rintro ⟨_ | ⟨head, front⟩, attr, back, split, indexEq, offsetEq⟩
        · obtain ⟨rfl, rfl⟩ := List.cons.inj split
          exact Or.inl ⟨by simpa using indexEq, by simpa using offsetEq⟩
        · obtain ⟨rfl, rfl⟩ := List.cons.inj split
          refine Or.inr ⟨front, attr, back, rfl, ?_, ?_⟩
          · rw [indexEq, List.length_cons]
            omega
          · rw [offsetEq]
            simp [TagAttribute.inserted]

end Snippet

namespace LibraryTag

theorem read_attributeSnippets
    (attributes : List TagAttribute)
    (unmarked : ∀ attr ∈ attributes, Unmarked attr.name.text.toList)
    (index : Nat)
    {done : Expansion}
    {rest : List Char} :
    read 0 0 done ((attributeSnippets index attributes).toList ++ rest) =
      read 0 0 (done.addAttributes index attributes) rest := by
  induction attributes generalizing index done with
  | nil => simp [attributeSnippets, Expansion.addAttributes]
  | cons attr others inductionHypothesis =>
      have textEq : (attributeSnippets index (attr :: others)).toList ++ rest =
          ' ' :: ((attr.snippet index).toList ++
            ((attributeSnippets (index + 1) others).toList ++ rest)) := by
        simp [attributeSnippets]
      rw [textEq, attr.read_snippet (unmarked attr List.mem_cons_self), Expansion.addAttributes]
      apply inductionHypothesis
      intro other member
      exact unmarked other (List.mem_cons_of_mem _ member)

/-! ## Tags -/

/-- What ends the tag in front of its last tab stop. -/
def insertedEnd (tag : LibraryTag) : List Char :=
  if tag.isSelfClosing then ['/', '>'] else ['>']

/-- What is inserted behind the last tab stop. -/
def insertedTail (tag : LibraryTag) (space : Option String) : List Char :=
  if tag.isSelfClosing then [] else '<' :: '/' :: ((qualified space tag.name).toList ++ ['>'])

/-- The tag as inserted. -/
def expansion (tag : LibraryTag) (space : Option String) : Expansion :=
  let named := ({} : Expansion).add (qualified space tag.name).toList
  let filled := named.addAttributes 1 tag.requiredAttributes
  let freed :=
    if tag.requiredAttributes.length < tag.attributes.length then
      filled.mark (tag.requiredAttributes.length + 1)
    else
      filled
  ((freed.add tag.insertedEnd).mark 0).add (tag.insertedTail space)

/-- What is inserted for the name and for attributes behind it. -/
def insertedFront
    (tag : LibraryTag)
    (space : Option String)
    (attributes : List TagAttribute) : List Char :=
  (qualified space tag.name).toList ++ attributes.flatMap (·.inserted)

theorem text_expansion
    (tag : LibraryTag)
    (space : Option String) :
    (tag.expansion space).text =
      tag.insertedFront space tag.requiredAttributes ++ tag.insertedEnd ++
        tag.insertedTail space := by
  unfold expansion insertedFront
  by_cases free : tag.requiredAttributes.length < tag.attributes.length <;>
    simp [free, Expansion.text_addAttributes]

/-- The stops of a tag: one for each required attribute, the free one, and the
last one. -/
theorem mem_stops_expansion
    (tag : LibraryTag)
    (space : Option String)
    (stop : Stop) :
    stop ∈ (tag.expansion space).stops ↔
      (∃ front attr back, tag.requiredAttributes = front ++ attr :: back ∧
        stop.index = front.length + 1 ∧
        stop.offset = Text.size (tag.insertedFront space front ++
          ' ' :: attr.insertedFront)) ∨
      (tag.requiredAttributes.length < tag.attributes.length ∧
        stop.index = tag.requiredAttributes.length + 1 ∧
        stop.offset = Text.size (tag.insertedFront space tag.requiredAttributes)) ∨
      (stop.index = 0 ∧
        stop.offset = Text.size (tag.insertedFront space tag.requiredAttributes ++
          tag.insertedEnd)) := by
  have attributeStops := Expansion.mem_stops_addAttributes
    (({} : Expansion).add (qualified space tag.name).toList) 1 tag.requiredAttributes stop
  have textEq := Expansion.text_addAttributes
    (({} : Expansion).add (qualified space tag.name).toList) 1 tag.requiredAttributes
  simp only [Expansion.stops_add, Expansion.text_add, List.not_mem_nil, false_or,
    List.nil_append, Nat.add_comm 1] at attributeStops textEq
  unfold expansion insertedFront
  by_cases free : tag.requiredAttributes.length < tag.attributes.length
  · simp only [free, if_true, Expansion.stops_add, Expansion.mem_stops_mark, Expansion.text_add,
      Expansion.text_mark, textEq, attributeStops, true_and, or_assoc]
  · simp only [free, if_false, Expansion.stops_add, Expansion.mem_stops_mark, Expansion.text_add,
      textEq, attributeStops, false_and, false_or]

theorem stopsAt_attribute
    (tag : LibraryTag)
    (space : Option String)
    {front back : List TagAttribute}
    {attr : TagAttribute}
    (split : tag.requiredAttributes = front ++ attr :: back) :
    (tag.expansion space).StopsAt (front.length + 1)
      (Text.size (tag.insertedFront space front ++ ' ' :: attr.insertedFront)) := by
  rintro ⟨index, offset⟩
  rw [mem_stops_expansion, Stop.mk.injEq]
  constructor
  · rintro ⟨⟨front', attr', back', split', indexEq, offsetEq⟩ | ⟨-, indexEq, -⟩ | ⟨indexEq, -⟩, rfl⟩
    · rw [split] at split'
      obtain ⟨rfl, tailEq⟩ := List.append_inj split' (Nat.succ.inj indexEq)
      obtain ⟨rfl, -⟩ := List.cons.inj tailEq
      exact ⟨rfl, offsetEq⟩
    · have lengthEq : front.length = tag.requiredAttributes.length := Nat.succ.inj indexEq
      rw [split, List.length_append, List.length_cons] at lengthEq
      omega
    · exact absurd indexEq (Nat.succ_ne_zero _)
  · rintro ⟨rfl, rfl⟩
    exact ⟨Or.inl ⟨front, attr, back, split, rfl, rfl⟩, rfl⟩

theorem stopsAt_last
    (tag : LibraryTag)
    (space : Option String) :
    (tag.expansion space).StopsAt 0
      (Text.size (tag.insertedFront space tag.requiredAttributes ++ tag.insertedEnd)) := by
  rintro ⟨index, offset⟩
  rw [mem_stops_expansion, Stop.mk.injEq]
  constructor
  · rintro ⟨⟨_, _, _, _, indexEq, _⟩ | ⟨_, indexEq, _⟩ | ⟨_, offsetEq⟩, rfl⟩
    · exact absurd indexEq.symm (Nat.succ_ne_zero _)
    · exact absurd indexEq.symm (Nat.succ_ne_zero _)
    · exact ⟨rfl, offsetEq⟩
  · rintro ⟨rfl, rfl⟩
    exact ⟨Or.inr (Or.inr ⟨rfl, rfl⟩), rfl⟩

theorem read_ending
    (tag : LibraryTag)
    (space : Option String)
    (unmarkedName : Unmarked (qualified space tag.name).toList)
    {done : Expansion} :
    read 0 0 done (tag.insertedEnd ++ ((stop 0 "").toList ++ tag.insertedTail space)) =
      some (((done.add tag.insertedEnd).mark 0).add (tag.insertedTail space)) := by
  have plainEnd : ∀ char ∈ tag.insertedEnd, isSpecial char = false := by
    unfold insertedEnd
    split <;> simp [isSpecial]
  have unmarkedTail : Unmarked (tag.insertedTail space) := by
    unfold insertedTail
    split
    · decide
    · have split : '<' :: '/' :: ((qualified space tag.name).toList ++ ['>']) =
          ['<', '/'] ++ ((qualified space tag.name).toList ++ ['>']) := rfl
      rw [split, unmarked_append, unmarked_append]
      exact ⟨by decide, unmarkedName, by decide⟩
  have notDigit : (tag.insertedTail space).head?.any Char.isDigit = false := by
    unfold insertedTail
    split <;> rfl
  rw [read_plain plainEnd, read_empty_stop 0 notDigit,
    ← List.append_nil (tag.insertedTail space), read_unmarked unmarkedTail, List.append_nil]
  rfl

/-- An editor that reads the snippet of a tag inserts the tag. -/
theorem expand?_snippet
    (tag : LibraryTag)
    (space : Option String)
    (unmarkedName : Unmarked (qualified space tag.name).toList)
    (unmarkedAttributes : ∀ attr ∈ tag.requiredAttributes, Unmarked attr.name.text.toList) :
    expand? (tag.snippet space) = some (tag.expansion space) := by
  have textEq : (tag.snippet space).toList =
      (qualified space tag.name).toList ++
        ((attributeSnippets 1 tag.requiredAttributes).toList ++
          ((if tag.requiredAttributes.length < tag.attributes.length then
              (stop (tag.requiredAttributes.length + 1) "").toList
            else
              []) ++
            (tag.insertedEnd ++ ((stop 0 "").toList ++ tag.insertedTail space)))) := by
    unfold snippet insertedEnd insertedTail
    by_cases free : tag.requiredAttributes.length < tag.attributes.length
    all_goals split <;> simp [stop, free]
  have notDigit : (tag.insertedEnd ++ ((stop 0 "").toList ++ tag.insertedTail space)).head?.any
      Char.isDigit = false := by
    unfold insertedEnd
    split <;> rfl
  rw [expand?, textEq, read_unmarked unmarkedName, read_attributeSnippets _ unmarkedAttributes,
    expansion]
  by_cases free : tag.requiredAttributes.length < tag.attributes.length
  · simp only [free, if_true]
    rw [read_empty_stop _ notDigit, tag.read_ending space unmarkedName]
  · simp only [free, if_false, List.nil_append]
    rw [tag.read_ending space unmarkedName]

end LibraryTag
end JspCompletion
