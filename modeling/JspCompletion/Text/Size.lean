/-!
# Byte offsets in a text

Editors and cursors address a document by UTF-8 byte offsets, while every
reader of the library walks over characters.  This module relates the two:
the size of a text in bytes, and the ways of cutting a text at an offset that
may fall inside a character.
-/

namespace JspCompletion
namespace Text

/-- The number of UTF-8 bytes of a text. -/
def size : List Char → Nat
  | [] => 0
  | char :: rest => char.utf8Size + size rest

@[simp] theorem size_nil : size [] = 0 := rfl

@[simp] theorem size_cons
    (char : Char)
    (rest : List Char) :
    size (char :: rest) = char.utf8Size + size rest := rfl

@[simp] theorem size_append
    (left right : List Char) :
    size (left ++ right) = size left + size right := by
  induction left with
  | nil => simp
  | cons char rest inductionHypothesis =>
      simp only [List.cons_append, size_cons, inductionHypothesis]
      omega

@[simp] theorem size_reverse
    (text : List Char) :
    size text.reverse = size text := by
  induction text with
  | nil => rfl
  | cons char rest inductionHypothesis =>
      simp only [List.reverse_cons, size_append, size_cons, size_nil,
        inductionHypothesis]
      omega

/-- The characters that end at or before a byte offset. -/
def before : Nat → List Char → List Char
  | _, [] => []
  | offset, char :: rest =>
      if char.utf8Size ≤ offset then
        char :: before (offset - char.utf8Size) rest
      else
        []

/-- The characters that follow `before` the same offset. -/
def after : Nat → List Char → List Char
  | _, [] => []
  | offset, char :: rest =>
      if char.utf8Size ≤ offset then
        after (offset - char.utf8Size) rest
      else
        char :: rest

/-- The characters that start before a byte offset, so that a character cut
by the offset is taken whole. -/
def reaching : Nat → List Char → List Char
  | _, [] => []
  | 0, _ :: _ => []
  | offset + 1, char :: rest =>
      char :: reaching (offset + 1 - char.utf8Size) rest

/-- Cutting at an offset loses nothing. -/
theorem before_append_after
    (offset : Nat)
    (text : List Char) :
    before offset text ++ after offset text = text := by
  induction text generalizing offset with
  | nil => rfl
  | cons char rest inductionHypothesis =>
      simp only [before, after]
      split
      · simp [inductionHypothesis]
      · rfl

/-- The part before an offset ends at or before it. -/
theorem size_before_le
    (offset : Nat)
    (text : List Char) :
    size (before offset text) ≤ offset := by
  induction text generalizing offset with
  | nil => simp [before]
  | cons char rest inductionHypothesis =>
      simp only [before]
      split
      · have := inductionHypothesis (offset - char.utf8Size)
        simp only [size_cons]
        omega
      · simp

/-- The largest character boundary at or below an offset. -/
def floorBoundary (text : List Char) (offset : Nat) : Nat :=
  size (before offset text)

/-- The characters between two byte offsets. -/
def slice (text : List Char) (start stop : Nat) : List Char :=
  after start (before stop text)

end Text
end JspCompletion
