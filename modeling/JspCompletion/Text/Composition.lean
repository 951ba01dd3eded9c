import JspCompletion.Text.Decomposition

/-!
# Canonical composition

Texts that mean the same characters are brought into one form: every character
is taken apart, marks are put in the order of their classes, and each letter
is then composed with the marks that follow it as far as there are composed
characters.
-/

namespace JspCompletion
namespace Text

/-- A character behind others, which are given in reverse.  A mark goes in
front of marks of a higher class. -/
def placeMark (char : Char) : List Char → List Char
  | [] => [char]
  | previous :: behind =>
      if 0 < markClass char ∧ markClass char < markClass previous then
        previous :: placeMark char behind
      else
        char :: previous :: behind

/-- The marks of a text in the order of their classes. -/
def orderMarks (text : List Char) : List Char :=
  (text.foldl (fun behind char => placeMark char behind) []).reverse

/-- The composed form of a text behind a letter, whose marks that could not be
composed with it are given in reverse.  A mark reaches the letter unless one
of at least its own class stands between. -/
def composeFrom : (letter : Option Char) → (marks : List Char) → List Char → List Char
  | letter, marks, [] => letter.toList ++ marks.reverse
  | letter, marks, char :: rest =>
      let reaches := marks.head?.all fun mark => markClass mark < markClass char
      match if reaches then letter.bind (composite? · char) else none with
      | some composed => composeFrom (some composed) marks rest
      | none =>
          if markClass char = 0 then
            letter.toList ++ marks.reverse ++ composeFrom (some char) [] rest
          else
            composeFrom letter (char :: marks) rest

/-- The composed form of a text. -/
def compose (text : List Char) : List Char :=
  composeFrom none [] (orderMarks (decompose text))

end Text
end JspCompletion
