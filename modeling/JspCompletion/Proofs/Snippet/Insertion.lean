import JspCompletion.Proofs.Snippet.Tag

/-!
# Tags and calls as they are inserted

The snippets of tags and functions mean what they are meant to: an editor that
reads one inserts the tag with its required attributes, or the call with the types
of its arguments, and leads through tab stops that are numbered without gaps.

Types may hold anything, also the characters that are special in snippets.  Names
may not hold a dollar sign or a backslash, since they are not escaped.
-/

namespace JspCompletion

open Snippet

namespace Snippet

/-- For a snippet an editor inserts a text with tab stops of these numbers, in the
order of the snippet. -/
def Inserts (snippet : String) (numbers : List Nat) (text : String) : Prop :=
  ∃ done, expand? snippet = some done ∧ done.stops.map (·.index) = numbers ∧
    done.text = text.toList

theorem Expansion.map_index_mark
    (done : Expansion)
    (index : Nat) :
    (done.mark index).stops.map (·.index) = done.stops.map (·.index) ++ [index] := by
  simp [mark]

/-- The stops of attributes are numbered one after the other. -/
theorem Expansion.map_index_addAttributes
    (done : Expansion)
    (index : Nat)
    (attributes : List TagAttribute) :
    (done.addAttributes index attributes).stops.map (·.index) =
      done.stops.map (·.index) ++ List.range' index attributes.length := by
  induction attributes generalizing done index with
  | nil => simp [addAttributes]
  | cons attr rest inductionHypothesis =>
      rw [addAttributes, inductionHypothesis, stops_add, map_index_mark, stops_add,
        List.length_cons, List.range'_succ, List.append_assoc, List.singleton_append]

end Snippet

/-! ## Tags -/

namespace TagAttribute

/-- The value that is inserted: nothing, or an expression that holds the short
type. -/
def value (attr : TagAttribute) : String :=
  if attr.dynamic then "$\x7b" ++ attr.shortType ++ "\x7d" else ""

/-- The attribute with its value, behind a space. -/
def written (attr : TagAttribute) : String :=
  " " ++ attr.name.text ++ "=\"" ++ attr.value ++ "\""

/-- Both kinds of expressions look alike once they are inserted. -/
theorem inserted_eq (attr : TagAttribute) : attr.inserted = attr.written.toList := by
  unfold inserted insertedFront insertedBack asExpression written value
  by_cases dynamic : attr.dynamic = true
  · by_cases isText : attr.shortType = "String"
    · simp [dynamic, isText]
    · simp [dynamic, isText]
  · simp [dynamic]

end TagAttribute

namespace LibraryTag

/-- The number of tab stops in front of the last one: one for each required
attribute, and one more if there are optional attributes. -/
def stopCount (tag : LibraryTag) : Nat :=
  tag.requiredAttributes.length + if tag.attributes.any (!·.required) then 1 else 0

/-- The tag with its required attributes and its end. -/
def written (tag : LibraryTag) (space : Option String) : String :=
  qualified space tag.name ++ String.join (tag.requiredAttributes.map (·.written)) ++
    if tag.content = "empty" then "/>" else "></" ++ qualified space tag.name ++ ">"

/-- Some attributes are optional exactly when not all are required. -/
theorem any_optional_iff (tag : LibraryTag) :
    (tag.attributes.any (!·.required)) = true ↔
      tag.requiredAttributes.length < tag.attributes.length := by
  rw [requiredAttributes, List.length_filter_lt_length_iff_exists, List.any_eq_true]
  simp

theorem toList_written
    (tag : LibraryTag)
    (space : Option String) :
    (tag.written space).toList = (tag.expansion space).text := by
  have attributes : (String.join (tag.requiredAttributes.map (·.written))).toList =
      tag.requiredAttributes.flatMap (·.inserted) := by
    simp [List.flatMap_map, TagAttribute.inserted_eq]
  rw [text_expansion, insertedFront, insertedEnd, insertedTail, written, isSelfClosing]
  by_cases empty : tag.content = "empty"
  · simp [empty, attributes]
  · simp [empty, attributes]

theorem map_index_expansion
    (tag : LibraryTag)
    (space : Option String) :
    (tag.expansion space).stops.map (·.index) = List.range' 1 tag.stopCount ++ [0] := by
  unfold expansion stopCount
  by_cases free : tag.requiredAttributes.length < tag.attributes.length
  · have oneMore : List.range' 1 (tag.requiredAttributes.length + 1) =
        List.range' 1 tag.requiredAttributes.length ++ [tag.requiredAttributes.length + 1] := by
      rw [List.range'_concat, Nat.one_mul, Nat.add_comm 1]
    simp [free, tag.any_optional_iff, oneMore, Expansion.map_index_mark,
      Expansion.map_index_addAttributes]
  · simp [free, tag.any_optional_iff, Expansion.map_index_mark, Expansion.map_index_addAttributes]

/-- The snippet of a tag inserts the tag with its required attributes, and leads
through the numbered stops to the last one. -/
theorem inserts_snippet
    (tag : LibraryTag)
    (space : Option String)
    (unmarkedName : Unmarked (qualified space tag.name).toList)
    (unmarkedAttributes : ∀ attr ∈ tag.requiredAttributes, Unmarked attr.name.text.toList) :
    Inserts (tag.snippet space) (List.range' 1 tag.stopCount ++ [0]) (tag.written space) :=
  ⟨tag.expansion space, tag.expand?_snippet space unmarkedName unmarkedAttributes,
    tag.map_index_expansion space, (tag.toList_written space).symm⟩

end LibraryTag

/-! ## Calls -/

namespace LibraryFunction

/-- The types of the arguments in their short form. -/
def shortArgumentTypes (function : LibraryFunction) : List String :=
  function.argumentTypes.map TypeName.short

/-- The call with the short types of its arguments. -/
def written (function : LibraryFunction) (space : Option String) : String :=
  qualified space function.name ++ "(" ++ ", ".intercalate function.shortArgumentTypes ++ ")"

/-- The stops of the arguments are read one after the other, with commas between
them. -/
theorem exists_read_argumentStops
    (types : List String)
    (index : Nat)
    (done : Expansion)
    {rest : List Char}
    (notDigit : rest.head?.any Char.isDigit = false) :
    ∃ filled : Expansion,
      read 0 0 done ((", ".intercalate (argumentStops index types)).toList ++ rest) =
          read 0 0 filled rest ∧
        filled.stops.map (·.index) =
          done.stops.map (·.index) ++ List.range' index types.length ∧
        filled.text = done.text ++ (", ".intercalate (types.map TypeName.short)).toList := by
  induction types generalizing index done with
  | nil => exact ⟨done, by simp [argumentStops]⟩
  | cons typeName others inductionHypothesis =>
      cases others with
      | nil =>
          refine ⟨(done.mark index).add (TypeName.short typeName).toList, ?_, ?_, ?_⟩
          · rw [argumentStops, argumentStops, String.intercalate_singleton]
            exact read_stop index _ fun _ => notDigit
          · rw [Expansion.stops_add, Expansion.map_index_mark]
            rfl
          · simp
      | cons next others =>
          have plainComma : ∀ char ∈ [',', ' '], isSpecial char = false := by
            simp [isSpecial]
          let first := ((done.mark index).add (TypeName.short typeName).toList).add [',', ' ']
          obtain ⟨filled, readEq, numbers, textEq⟩ := inductionHypothesis (index + 1) first
          refine ⟨filled, ?_, ?_, ?_⟩
          · have listEq :
                (", ".intercalate (argumentStops index (typeName :: next :: others))).toList =
                  (stop index (TypeName.short typeName)).toList ++ ([',', ' '] ++
                    (", ".intercalate (argumentStops (index + 1) (next :: others))).toList) := by
              simp [argumentStops]
            rw [listEq, List.append_assoc, read_stop index _ fun _ => rfl, List.append_assoc,
              read_plain plainComma, readEq]
          · rw [numbers, Expansion.stops_add, Expansion.stops_add, Expansion.map_index_mark]
            simp [List.range'_succ]
          · rw [textEq]
            simp [first]

/-- The snippet of a function inserts a call with the short types of the
arguments, and leads through them one after the other. -/
theorem inserts_snippet
    (function : LibraryFunction)
    (space : Option String)
    (unmarkedName : Unmarked (qualified space function.name).toList) :
    Inserts (function.snippet space) (List.range' 1 function.argumentTypes.length)
      (function.written space) := by
  have unmarkedOpening : Unmarked ((qualified space function.name).toList ++ ['(']) :=
    unmarked_append.mpr ⟨unmarkedName, by decide⟩
  have plainClosing : ∀ char ∈ [')'], isSpecial char = false := by
    simp [isSpecial]
  let opened := ({} : Expansion).add ((qualified space function.name).toList ++ ['('])
  have closingBehind : [')'].head?.any Char.isDigit = false := rfl
  obtain ⟨filled, readEq, numbers, textEq⟩ :=
    exists_read_argumentStops function.argumentTypes 1 opened closingBehind
  refine ⟨filled.add [')'], ?_, ?_, ?_⟩
  · have listEq : (function.snippet space).toList =
        (qualified space function.name).toList ++ ['('] ++
          ((", ".intercalate (argumentStops 1 function.argumentTypes)).toList ++ [')']) := by
      simp [snippet]
    rw [expand?, listEq, read_unmarked unmarkedOpening, readEq, ← List.append_nil [')'],
      read_plain plainClosing]
    rfl
  · rw [Expansion.stops_add, numbers]
    rfl
  · rw [Expansion.text_add, textEq]
    simp [opened, written, shortArgumentTypes]

end LibraryFunction

/-! ## Both -/

namespace Snippet

/-- Where no name holds a dollar sign or a backslash, the snippets of tags and
functions insert what they are meant to, whatever the types hold: the tag with its
required attributes and its end, past a stop for each of them, one for optional
attributes if there are any, and the last one; or the call, past a stop for each
argument. -/
theorem tags_and_calls_are_inserted :
    (∀ (tag : LibraryTag) (space : Option String),
      Unmarked (qualified space tag.name).toList →
        (∀ attr ∈ tag.requiredAttributes, Unmarked attr.name.text.toList) →
          Inserts (tag.snippet space) (List.range' 1 tag.stopCount ++ [0]) (tag.written space)) ∧
      ∀ (function : LibraryFunction) (space : Option String),
        Unmarked (qualified space function.name).toList →
          Inserts (function.snippet space) (List.range' 1 function.argumentTypes.length)
            (function.written space) :=
  ⟨LibraryTag.inserts_snippet, LibraryFunction.inserts_snippet⟩

/-- A type that holds the special characters. -/
def sampleType : String := "Map<$,\x7d\\>"

/-- A tag with a static, a dynamic and an optional attribute. -/
def importTag : LibraryTag :=
  { name := ⟨"import", by decide⟩
    uri := "core"
    className := ""
    description := ""
    content := "JSP"
    attributes :=
      [importAttribute ⟨"url", by decide⟩ "" true false,
        importAttribute ⟨"session", by decide⟩ sampleType true true,
        importAttribute ⟨"context", by decide⟩ "" false false] }
where
  importAttribute (name : Name) (typeName : String) (required dynamic : Bool) : TagAttribute :=
    { name, tagName := "import", description := "", typeName, required, dynamic }

/-- A function with two arguments. -/
def pickFunction : LibraryFunction :=
  { name := ⟨"pick", by decide⟩
    uri := "core"
    className := ""
    signature := ""
    usage := ""
    description := ""
    returnType := ""
    argumentTypes := ["java.lang.String", sampleType] }

/-- The types come out as they are, in a tag behind two more stops and in a call. -/
theorem importTag_and_pickFunction_are_inserted :
    Inserts (importTag.snippet (some "c")) [1, 2, 3, 0]
        "c:import url=\"\" session=\"$\x7bMap<$,\x7d\\>\x7d\"></c:import>" ∧
      Inserts (pickFunction.snippet none) [1, 2] "pick(String, Map<$,\x7d\\>)" := by
  have unmarked : ∀ attr ∈ importTag.requiredAttributes, Unmarked attr.name.text.toList := by
    decide
  have tag := tags_and_calls_are_inserted.1 importTag (some "c") (by decide) unmarked
  have call := tags_and_calls_are_inserted.2 pickFunction none (by decide)
  have tagText : importTag.written (some "c") =
      "c:import url=\"\" session=\"$\x7bMap<$,\x7d\\>\x7d\"></c:import>" := by
    decide +kernel
  have callText : pickFunction.written none = "pick(String, Map<$,\x7d\\>)" := by
    decide +kernel
  rw [tagText] at tag
  rw [callText] at call
  exact ⟨tag, call⟩

end Snippet
end JspCompletion
