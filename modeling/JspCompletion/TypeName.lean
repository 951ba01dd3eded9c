import JspCompletion.Text.Recognize

/-!
# Short type names

Types are shown by their last segment: `java.lang.Object[]` as `Object[]` and
`java.lang.String...` as `String...`.  A text that ends in no such segment is
shown trimmed.
-/

namespace JspCompletion
namespace TypeName

/-- The character may start a segment of a type. -/
def isSegmentStart (char : Char) : Bool :=
  char.isAlpha || char == '_' || char == '$'

/-- The character may continue a segment of a type. -/
def isSegmentRest (char : Char) : Bool :=
  char.isAlphanum || char == '_' || char == '$' || char == '[' || char == ']'

/-- A segment that reaches the end of the text, blank characters aside. -/
def closingSegment? : List Char → Option (List Char × List Char)
  | [] => none
  | first :: rest =>
      if isSegmentStart first then
        let body := first :: rest.takeWhile isSegmentRest
        match rest.dropWhile isSegmentRest with
        | '.' :: '.' :: '.' :: tail =>
            if tail.all Text.isBlank then some (body ++ ['.', '.', '.'], []) else none
        | tail => if tail.all Text.isBlank then some (body, []) else none
      else
        none

/-- The short form of a type. -/
def short (typeName : String) : String :=
  match Text.firstValue? closingSegment? typeName.toList with
  | some segment => String.ofList segment
  | none => Text.trimmed typeName

end TypeName
end JspCompletion
