import JspCompletion.Text.Digit

/-!
# Tables of characters

A table is written as a text of words.  Each word names a character or a range
of characters and, behind a colon, the numbers that belong to it, joined by
dots: `C0:41.300` or `300-314:E6`.  All numbers are hexadecimal.
-/

namespace JspCompletion
namespace Text

/-- What a table says about a range of characters. -/
structure TableEntry where
  /-- The code point of the first character. -/
  first : Nat
  /-- The code point of the last character. -/
  last : Nat
  /-- The numbers that belong to the range. -/
  values : List Nat
deriving DecidableEq, Repr

namespace TableEntry

/-- The entry that a word writes. -/
def ofWord? (word : List Char) : Option TableEntry := do
  match word.splitOn ':' with
  | [range, values] =>
      let bounds ← (range.splitOn '-').mapM (number? 16)
      let values ← if values.isEmpty then some [] else (values.splitOn '.').mapM (number? 16)
      some { first := ← bounds.head?, last := ← bounds.getLast?, values }
  | _ => none

/-- The entry is about a character. -/
def covers (entry : TableEntry) (char : Char) : Bool :=
  entry.first ≤ char.toNat && char.toNat ≤ entry.last

/-- The characters that an entry puts in the place of a character.  A single
character moves along with the range, so that a range is replaced by a range. -/
def image (entry : TableEntry) (char : Char) : List Char :=
  match entry.values with
  | [start] => [Char.ofNat (start + (char.toNat - entry.first))]
  | values => values.map Char.ofNat

end TableEntry

/-- A table that a text writes. -/
def table (text : String) : List TableEntry :=
  let words := (text.toList.map fun char => if char == '\n' then ' ' else char).splitOn ' '
  words.filterMap TableEntry.ofWord?

/-- The entry of a table about a character. -/
def lookup? (entries : List TableEntry) (char : Char) : Option TableEntry :=
  entries.find? (·.covers char)

end Text
end JspCompletion
