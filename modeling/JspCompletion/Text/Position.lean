import JspCompletion.Text.Size

/-!
# Editor positions

An editor addresses a document by line and column, where a column counts
UTF-16 code units.  Lines end at a line feed; one carriage return in front of
it, or at the end of the text, does not belong to the line.
-/

namespace JspCompletion
namespace Text

/-- A place in a document, as editors write it. -/
structure Position where
  /-- The line, counted from zero. -/
  line : Nat
  /-- The number of UTF-16 code units in front on the line. -/
  character : Nat
deriving DecidableEq, Repr

/-- The number of UTF-16 code units of a character. -/
def unitCount (char : Char) : Nat :=
  if char.toNat < 0x10000 then 1 else 2

/-- The number of UTF-16 code units of a text. -/
def units : List Char → Nat
  | [] => 0
  | char :: rest => unitCount char + units rest

@[simp] theorem units_nil : units [] = 0 := rfl

@[simp] theorem units_cons
    (char : Char)
    (rest : List Char) :
    units (char :: rest) = unitCount char + units rest := rfl

/-- A line without the carriage return at its end. -/
def withoutReturn (line : List Char) : List Char :=
  if line.getLast? = some '\r' then line.dropLast else line

/-- The content of the first line of a text. -/
def firstLine (text : List Char) : List Char :=
  withoutReturn (text.takeWhile (· != '\n'))

/-- The size of the characters of a line that start before a column. -/
def columnSize : (column : Nat) → List Char → Nat
  | _, [] => 0
  | 0, _ :: _ => 0
  | column + 1, char :: rest =>
      char.utf8Size + columnSize (column + 1 - unitCount char) rest

/-- The byte offset of a line and column.  A column past the end of its line
stands for the end of the line, and a line past the end of the text for the
end of the text. -/
def offsetAt : (line column : Nat) → List Char → Nat
  | 0, column, text => columnSize column (firstLine text)
  | line + 1, column, text =>
      match text.dropWhile (· != '\n') with
      | [] => size text
      | _ :: rest => size (text.takeWhile (· != '\n')) + 1 + offsetAt line column rest

/-- The byte offset of a position. -/
def offsetOf (text : List Char) (position : Position) : Nat :=
  offsetAt position.line position.character text

/-- The position of a byte offset.  An offset inside a character stands for
the start of the character, and one past the end for the end. -/
def positionOf (text : List Char) (offset : Nat) : Position :=
  let head := before offset text
  { line := head.count '\n'
    character := units (head.reverse.takeWhile (· != '\n')) }

/-- A stretch of a document between two positions. -/
structure Range where
  /-- Where the stretch starts. -/
  start : Position
  /-- Where the stretch ends. -/
  stop : Position
deriving DecidableEq, Repr

end Text
end JspCompletion
