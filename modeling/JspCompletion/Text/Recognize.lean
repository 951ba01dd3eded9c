import JspCompletion.Text.Blank

/-!
# Recognisers

A recogniser reads a form at the start of a text and returns what it found
together with the rest, or nothing.  The forms of this library never leave a
choice open: each character decides how to go on, so the first way of reading
a form is the only one.  `occurrences` lists the places where a form is found,
from left to right and without overlaps.
-/

namespace JspCompletion
namespace Text

/-- The rest of a text after a fixed word at its start. -/
def after? : (word text : List Char) → Option (List Char)
  | [], text => some text
  | _ :: _, [] => none
  | expected :: word, char :: rest =>
      if expected = char then after? word rest else none

@[simp] theorem after?_nil (text : List Char) : after? [] text = some text := by
  cases text <;> rfl

/-- A word is found at the start of a text exactly when the text begins with
it. -/
theorem after?_eq_some_iff
    {word text rest : List Char} :
    after? word text = some rest ↔ text = word ++ rest := by
  induction word generalizing text with
  | nil => simp [eq_comm]
  | cons expected word inductionHypothesis =>
      cases text with
      | nil => simp [after?]
      | cons char tail =>
          simp only [after?, List.cons_append, List.cons.injEq]
          split
          · next equal => simp [equal, inductionHypothesis]
          · next different => simp [Ne.symm different]

/-- The rest of a text after the blank characters at its start, at least one
of which is required. -/
def afterBlanks? : List Char → Option (List Char)
  | [] => none
  | char :: rest => if isBlank char then some (trimStart rest) else none

/-- The characters between double quotes at the start of a text, and the
rest. -/
def quoted? : List Char → Option (List Char × List Char)
  | '"' :: rest =>
      match rest.dropWhile (· != '"') with
      | [] => none
      | _ :: tail => some (rest.takeWhile (· != '"'), tail)
  | _ => none

/-- The places where a form is found, as pairs of the number of characters in
front and the value read there.  The counter `skip` runs over the characters
that belong to the last form found. -/
def occurrencesFrom
    (recognize? : List Char → Option (α × List Char)) :
    (position skip : Nat) → List Char → List (Nat × α)
  | _, _, [] => []
  | position, skip + 1, _ :: rest =>
      occurrencesFrom recognize? (position + 1) skip rest
  | position, 0, char :: rest =>
      match recognize? (char :: rest) with
      | none => occurrencesFrom recognize? (position + 1) 0 rest
      | some (value, tail) =>
          (position, value) ::
            occurrencesFrom recognize? (position + 1) (rest.length - tail.length) rest

/-- The values of a form found in a text, from left to right and without
overlaps, with their places. -/
def occurrences
    (recognize? : List Char → Option (α × List Char))
    (text : List Char) : List (Nat × α) :=
  occurrencesFrom recognize? 0 0 text

/-- The values of a form found in a text, without their places. -/
def valuesOf
    (recognize? : List Char → Option (α × List Char))
    (text : List Char) : List α :=
  (occurrences recognize? text).map (·.2)

/-- The first value of a form found in a text. -/
def firstValue?
    (recognize? : List Char → Option (α × List Char)) :
    List Char → Option α
  | [] => none
  | char :: rest =>
      match recognize? (char :: rest) with
      | some (value, _) => some value
      | none => firstValue? recognize? rest

end Text
end JspCompletion
