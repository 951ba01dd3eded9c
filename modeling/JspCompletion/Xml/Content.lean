import JspCompletion.Text.Digit
import JspCompletion.Xml.Token

/-!
# Text inside elements

Text is trimmed of the white space around it and its references are decoded:
the five predefined entities and numeric references.  Character data stands
for itself, and pieces of text with only comments between them are one run.
-/

namespace JspCompletion
namespace Xml

/-- A piece of the text of an element. -/
inductive Piece
  /-- Text as written. -/
  | text (raw : List Char)
  /-- Character data. -/
  | data (content : List Char)
deriving DecidableEq, Repr

namespace Piece

/-- The character with a code point other than zero. -/
def charOf? (code : Nat) : Option Char :=
  if valid : code.isValidChar then
    if code = 0 then none else some (Char.ofNatAux code valid)
  else
    none

/-- What a reference stands for. -/
def reference? (name : List Char) : Option Char :=
  match name with
  | '#' :: 'x' :: digits => Text.number? 16 digits >>= charOf?
  | '#' :: digits => Text.number? 10 digits >>= charOf?
  | name =>
      match String.ofList name with
      | "lt" => some '<'
      | "gt" => some '>'
      | "amp" => some '&'
      | "apos" => some '\''
      | "quot" => some '"'
      | _ => none

/-- Text with its references decoded.  The name of an open reference is
`name`, in reverse. -/
def decodeFrom : (name : Option (List Char)) → List Char → Option (List Char)
  | none, [] => some []
  | some _, [] => none
  | none, char :: rest =>
      if char == '&' then
        decodeFrom (some []) rest
      else
        (decodeFrom none rest).map (char :: ·)
  | some name, char :: rest =>
      if char == ';' then do
        let meant ← reference? name.reverse
        (decodeFrom none rest).map (meant :: ·)
      else if char == '&' then
        none
      else
        decodeFrom (some (char :: name)) rest

/-- What a piece stands for. -/
def decode? : Piece → Option (List Char)
  | text raw => decodeFrom none raw
  | data content => some content

/-- The piece is text that holds only white space. -/
def isSpaces : Piece → Bool
  | text raw => raw.all isSpace
  | data _ => false

/-- The piece without white space in front, if it is text. -/
def trimStart : Piece → Piece
  | text raw => text (raw.dropWhile isSpace)
  | data content => data content

/-- The piece without white space at its end, if it is text. -/
def trimEnd : Piece → Piece
  | text raw => text (raw.reverse.dropWhile isSpace).reverse
  | data content => data content

/-- The pieces without the white space around them. -/
def trim (pieces : List Piece) : List Piece :=
  match pieces.dropWhile isSpaces with
  | [] => []
  | first :: rest =>
      let pieces := first.trimStart :: rest
      pieces.dropLast ++ (pieces.getLast?.map trimEnd).toList

/-- The run of pieces holds only white space, and no character data. -/
def isBlankRun (pieces : List Piece) : Bool :=
  pieces.all isSpaces

/-- The text of a run of pieces. -/
def join? (pieces : List Piece) : Option String :=
  ((trim pieces).mapM decode?).map fun parts => String.ofList parts.flatten

end Piece
end Xml
end JspCompletion
