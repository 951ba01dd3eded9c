import JspCompletion.Text.Digit

/-!
# Numeric addresses

A host may be a number instead of a name: four numbers up to 255 with dots
between them, or eight numbers of 16 bits with colons.  Both have several
spellings, of which one is the usual one.
-/

namespace JspCompletion
namespace Uri

/-! ## Four numbers -/

namespace Quad

/-- One number of an address, which may be octal or hexadecimal. -/
def number? (text : List Char) : Option Nat :=
  match text with
  | [] => none
  | '0' :: mark :: rest =>
      if mark == 'x' || mark == 'X' then
        if rest.isEmpty then some 0 else Text.number? 16 rest
      else
        Text.number? 8 (mark :: rest)
  | text => Text.number? 10 text

/-- The parts of a domain between dots, without an empty one at the end. -/
def parts (domain : List Char) : List (List Char) :=
  let parts := domain.splitOn '.'
  if parts.getLast? = some [] then parts.dropLast else parts

/-- A domain whose last part is a number has to be an address. -/
def isMeant (domain : List Char) : Bool :=
  match (parts domain).getLast? with
  | some last => (!last.isEmpty && last.all Char.isDigit) || (number? last).isSome
  | none => false

/-- The address that a domain writes: each number but the last is one byte, and
the last stands for all remaining bytes. -/
def ofDomain? (domain : List Char) : Option Nat := do
  let numbers ← (parts domain).mapM number?
  guard (numbers.length ≤ 4)
  let front := numbers.dropLast
  let last ← numbers.getLast?
  guard (front.all (· ≤ 255) && last < Nat.pow 256 (4 - front.length))
  some (Text.ofDigits 256 front * Nat.pow 256 (4 - front.length) + last)

/-- The address as four numbers. -/
def render (address : Nat) : String :=
  ".".intercalate
    ([3, 2, 1, 0].map fun place => toString (address / Nat.pow 256 place % 256))

end Quad

/-! ## Eight numbers -/

namespace Pieces

/-- Four numbers at the end of an address, as two pieces.  Here they are
decimal, and have no zeros in front. -/
def quad? (text : List Char) : Option (List Nat) := do
  let parts := text.splitOn '.'
  guard (parts.length = 4 && parts.all fun part => part = ['0'] || part.head? != some '0')
  let numbers ← parts.mapM (Text.number? 10)
  guard (numbers.all (· ≤ 255))
  some [Text.ofDigits 256 (numbers.take 2), Text.ofDigits 256 (numbers.drop 2)]

/-- The pieces that a part between colons writes. -/
def part? (isLast : Bool) (text : List Char) : Option (List Nat) :=
  if isLast && text.contains '.' then
    quad? text
  else do
    guard (text.length ≤ 4)
    some [← Text.number? 16 text]

/-- The pieces of a text without a gap. -/
def plain? (text : List Char) : Option (List Nat) :=
  if text.isEmpty then
    some []
  else do
    let parts := text.splitOn ':'
    let front ← parts.dropLast.mapM (part? false)
    let last ← parts.getLast? >>= part? true
    some (front.flatten ++ last)

/-- What stands in front of the first two colons in a row, and what follows
them. -/
def atGap? : List Char → Option (List Char × List Char)
  | ':' :: ':' :: rest => some ([], rest)
  | char :: rest => (atGap? rest).map fun (front, back) => (char :: front, back)
  | [] => none

/-- The pieces that a text writes.  A gap stands for the zeros that are
missing. -/
def ofText? (text : List Char) : Option (List Nat) :=
  match atGap? text with
  | none => do
      let pieces ← plain? text
      guard (pieces.length = 8)
      some pieces
  | some (front, back) => do
      let front ← plain? front
      let back ← plain? back
      guard (front.length + back.length < 8)
      some (front ++ List.replicate (8 - front.length - back.length) 0 ++ back)

/-- The number of zeros at the start. -/
def zeros (pieces : List Nat) : Nat :=
  (pieces.takeWhile (· == 0)).length

/-- The places of the zeros that are left out: the longest row of at least two,
the first one if there are several. -/
def gap? (pieces : List Nat) : Option (Nat × Nat) :=
  let rows := (List.range pieces.length).map fun start => (start, zeros (pieces.drop start))
  let longer (best : Option (Nat × Nat)) (row : Nat × Nat) : Option (Nat × Nat) :=
    if row.2 ≤ max 1 ((best.map (·.2)).getD 0) then best else some row
  rows.foldl longer none

/-- A piece in lower-case hexadecimal digits. -/
def renderPiece (piece : Nat) : String :=
  String.ofList (Nat.toDigits 16 piece)

/-- Pieces with colons between them. -/
def renderPlain (pieces : List Nat) : String :=
  ":".intercalate (pieces.map renderPiece)

/-- The address as written. -/
def render (pieces : List Nat) : String :=
  match gap? pieces with
  | none => renderPlain pieces
  | some (start, count) =>
      renderPlain (pieces.take start) ++ "::" ++ renderPlain (pieces.drop (start + count))

end Pieces
end Uri
end JspCompletion
