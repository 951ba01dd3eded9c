import JspCompletion.Proofs.Completion.Forms
import JspCompletion.Proofs.Snippet.Insertion

/-!
# Names in inserted text

A function or tag is listed under its qualified name, and what is inserted for it
begins with that name, however much of a tag is inserted: reading a snippet only
adds to the text, and the name is read first.

This holds of names without a dollar sign and a backslash.  Names are not escaped,
so a function `sum$1` loses the end of its name to a tab stop.  Marks in the names
of attributes do no harm to the name in front of them, but what is inserted behind
it may then depend on the editor.
-/

namespace JspCompletion

open Snippet

namespace Snippet

theorem Form.text_prefix_insert
    (done : Expansion)
    (form : Form) :
    done.text <+: (form.insert done).text := by
  cases form with
  | inserted char => exact List.prefix_append _ _
  | stop index => exact List.prefix_refl _
  | opening index => exact List.prefix_refl _
  | closing => exact List.prefix_refl _

/-- Reading on only adds to the inserted text. -/
theorem text_prefix_of_read
    {skip depth : Nat}
    {done final : Expansion}
    {rest : List Char}
    (readEq : read skip depth done rest = some final) :
    done.text <+: final.text := by
  fun_induction read skip depth done rest with
  | case1 done =>
      cases readEq
      exact List.prefix_refl _
  | case2 => cases readEq
  | case3 skip depth done char rest inductionHypothesis => exact inductionHypothesis readEq
  | case4 depth done char rest form more formEq inductionHypothesis =>
      exact (form.text_prefix_insert done).trans (inductionHypothesis readEq)
  | case5 => cases readEq

/-- What stands unmarked in front of a snippet comes first in the inserted text. -/
theorem prefix_of_expand?
    {front : String}
    {rest : String}
    {done : Expansion}
    (unmarked : Unmarked front.toList)
    (expanded : expand? (front ++ rest) = some done) :
    front.toList <+: done.text := by
  rw [expand?, String.toList_append, read_unmarked unmarked] at expanded
  exact text_prefix_of_read expanded

/-- Text without marks is a snippet for itself. -/
theorem expand?_unmarked
    {text : String}
    (unmarked : Unmarked text.toList) :
    expand? text = some (({} : Expansion).add text.toList) := by
  have whole : read 0 0 {} (text.toList ++ []) =
      read 0 0 (({} : Expansion).add text.toList) [] :=
    read_unmarked unmarked
  rw [List.append_nil] at whole
  exact whole

end Snippet

/-- A name behind its namespace is never empty, whatever follows it. -/
theorem unlessEmpty_qualified_append
    (space : String)
    (name : Name)
    (rest : String) :
    unlessEmpty (qualified (some space) name ++ rest) =
      some (qualified (some space) name ++ rest) := by
  have nonempty : qualified (some space) name ++ rest ≠ "" := by
    simp [qualified, qualifier]
  rw [unlessEmpty, if_neg nonempty]

/-! ## Suggestions -/

namespace LibraryTag

variable {context : MatchContext} {space : String}

/-- Every way of inserting a tag begins with its name. -/
theorem exists_snippet_suggestion
    (tag : LibraryTag)
    (bound : namespaceFor? context.declared tag.uri = some space)
    (unmarked : Unmarked (qualified (some space) tag.name).toList) :
    ∃ rest, (tag.suggestion context).snippet = some (qualified (some space) tag.name ++ rest) ∧
      ((context.tagCompletion = .full →
          ∀ attr ∈ tag.requiredAttributes, Unmarked attr.name.text.toList) →
        ∃ done, expand? (qualified (some space) tag.name ++ rest) = some done) := by
  cases mode : context.tagCompletion with
  | nameOnly =>
      have unmarkedWhole : Unmarked (qualified (some space) tag.name ++ "").toList := by
        rwa [String.append_empty]
      refine ⟨"", ?_, fun _ => ⟨_, expand?_unmarked unmarkedWhole⟩⟩
      rw [← unlessEmpty_qualified_append, String.append_empty]
      simp only [suggestion, bound, mode]
  | closing =>
      have unmarkedWhole : Unmarked (qualified (some space) tag.name ++ ">").toList := by
        rw [String.toList_append, unmarked_append]
        exact ⟨unmarked, by decide⟩
      refine ⟨">", ?_, fun _ => ⟨_, expand?_unmarked unmarkedWhole⟩⟩
      rw [← unlessEmpty_qualified_append]
      simp only [suggestion, bound, mode]
  | full =>
      obtain ⟨rest, snippetEq⟩ : ∃ rest, tag.snippet (some space) =
          qualified (some space) tag.name ++ rest := by
        simp only [snippet, String.append_assoc]
        exact ⟨_, rfl⟩
      refine ⟨rest, ?_, fun attributes => ⟨tag.expansion (some space), ?_⟩⟩
      · rw [← unlessEmpty_qualified_append, ← snippetEq]
        simp only [suggestion, bound, mode]
      · rw [← snippetEq]
        exact tag.expand?_snippet (some space) unmarked (attributes rfl)

end LibraryTag

namespace LibraryFunction

variable {context : MatchContext} {space : String}

/-- A call begins with the name of the function. -/
theorem exists_snippet_suggestion
    (function : LibraryFunction)
    (bound : namespaceFor? context.declared function.uri = some space)
    (unmarked : Unmarked (qualified (some space) function.name).toList) :
    ∃ rest, (function.suggestion context).snippet =
        some (qualified (some space) function.name ++ rest) ∧
      ∃ done, expand? (qualified (some space) function.name ++ rest) = some done := by
  obtain ⟨rest, snippetEq⟩ : ∃ rest, function.snippet (some space) =
      qualified (some space) function.name ++ rest := by
    simp only [snippet, String.append_assoc]
    exact ⟨_, rfl⟩
  obtain ⟨done, expanded, -⟩ := function.inserts_snippet (some space) unmarked
  refine ⟨rest, ?_, done, ?_⟩
  · rw [← unlessEmpty_qualified_append, ← snippetEq]
    simp only [suggestion, bound]
  · rw [← snippetEq, expanded]

end LibraryFunction

namespace Descriptor

/-- The attributes that are inserted together with a tag. -/
def requiredAttributes : Descriptor → List TagAttribute
  | tag item => item.requiredAttributes
  | _ => []

/-- A function or tag of a declared library is listed under its qualified name, and
where that holds no dollar sign and no backslash, what is inserted begins with it.
An editor can read the whole snippet if the names of the attributes that are
inserted with a tag hold none either. -/
theorem displayed_name_is_inserted_first
    (item : Descriptor)
    (context : MatchContext)
    {uri space : String}
    (fromLibrary : item.libraryUri? = some uri)
    (bound : namespaceFor? context.declared uri = some space)
    (unmarked : Unmarked (qualified (some space) item.name).toList) :
    ∃ snippet,
      (item.suggestion context).displayText = some (qualified (some space) item.name) ∧
        (item.suggestion context).snippet = some snippet ∧
        (∀ done, expand? snippet = some done →
          (qualified (some space) item.name).toList <+: done.text) ∧
        ((context.tagCompletion = .full →
            ∀ attr ∈ item.requiredAttributes, Unmarked attr.name.text.toList) →
          ∃ done, expand? snippet = some done) := by
  have named (name : Name) : unlessEmpty (qualified (some space) name) =
      some (qualified (some space) name) := by
    have whole := unlessEmpty_qualified_append space name ""
    rwa [String.append_empty] at whole
  cases item with
  | function item =>
      cases fromLibrary
      obtain ⟨rest, snippetEq, readable⟩ := item.exists_snippet_suggestion bound unmarked
      refine ⟨_, ?_, snippetEq, fun done => prefix_of_expand? unmarked, fun _ => readable⟩
      simp only [suggestion, LibraryFunction.suggestion, bound, named, name]
  | tag item =>
      cases fromLibrary
      obtain ⟨rest, snippetEq, readable⟩ := item.exists_snippet_suggestion bound unmarked
      refine ⟨_, ?_, snippetEq, fun done => prefix_of_expand? unmarked, readable⟩
      simp only [suggestion, LibraryTag.suggestion, bound, named, name]
  | _ => cases fromLibrary

/-- A function with a name and no arguments. -/
def namedFunction (name : Name) : LibraryFunction :=
  { name
    uri := "u"
    className := ""
    signature := ""
    usage := ""
    description := ""
    returnType := ""
    argumentTypes := [] }

/-- A tag with a name and no attributes. -/
def namedTag (name : Name) : LibraryTag :=
  { name
    uri := "u"
    className := ""
    description := ""
    content := ""
    attributes := [] }

/-- A page that declares their library under `p`. -/
def naming (tagCompletion : TagCompletion) : MatchContext :=
  { typed := ""
    declared :=
      [{ boundTo := "p"
         library :=
          { name := ⟨"named", by decide⟩
            uri := "u"
            fullName := ""
            description := ""
            functions := []
            tags := [] } }]
    tagCompletion }

/-- A closing brace in a name is inserted as it is. -/
theorem bracedTag_is_inserted_first :
    Unmarked "p:a\x7db".toList ∧
      ((tag (namedTag ⟨"a\x7db", by decide⟩)).suggestion (naming .full)).displayText =
        some "p:a\x7db" ∧
      ∃ snippet done,
        ((tag (namedTag ⟨"a\x7db", by decide⟩)).suggestion (naming .full)).snippet = some snippet ∧
          expand? snippet = some done ∧ "p:a\x7db".toList <+: done.text := by
  have unmarked : Unmarked "p:a\x7db".toList := by decide
  obtain ⟨snippet, displayed, suggested, begins, readable⟩ :=
    displayed_name_is_inserted_first (tag (namedTag ⟨"a\x7db", by decide⟩)) (naming .full) rfl rfl
      unmarked
  obtain ⟨done, expanded⟩ := readable (by decide)
  exact ⟨unmarked, displayed, snippet, done, suggested, expanded, begins done expanded⟩

/-- A name with a dollar sign loses its end to a tab stop, and of two backslashes one
is inserted. -/
theorem marked_names_are_changed :
    let sum := (function (namedFunction ⟨"sum$1", by decide⟩)).suggestion (naming .full)
    let path := (tag (namedTag ⟨"a\\\\b", by decide⟩)).suggestion (naming .nameOnly)
    sum.displayText = some "p:sum$1" ∧
      (sum.snippet.bind expand?).map (·.text) = some "p:sum()".toList ∧
      ¬"p:sum$1".toList <+: "p:sum()".toList ∧
      path.displayText = some "p:a\\\\b" ∧
      (path.snippet.bind expand?).map (·.text) = some "p:a\\b".toList ∧
      ¬"p:a\\\\b".toList <+: "p:a\\b".toList := by
  decide +kernel

end Descriptor
end JspCompletion
