/-!
# Bytes as text

Names on a disk are bytes.  As text they are read in UTF-8; where they are no
text, each stretch that starts like a character but is not one is shown as a
single replacement character.
-/

namespace JspCompletion
namespace Text

/-- The bytes of a text. -/
def utf8 (text : List Char) : List UInt8 :=
  text.flatMap String.utf8EncodeChar

/-- Texts are encoded character by character. -/
@[simp] theorem utf8_append (front rest : List Char) :
    utf8 (front ++ rest) = utf8 front ++ utf8 rest := by
  simp [utf8]

/-- The text that bytes encode. -/
def ofUtf8? (bytes : List UInt8) : Option String :=
  String.fromUTF8? ⟨bytes.toArray⟩

/-- The ranges of the bytes that follow a first byte in the encoding of a
character. -/
def continuation? (lead : UInt8) : Option (List (UInt8 × UInt8)) :=
  let any : UInt8 × UInt8 := (0x80, 0xBF)
  if lead < 0x80 then
    some []
  else if 0xC2 ≤ lead ∧ lead ≤ 0xDF then
    some [any]
  else if lead = 0xE0 then
    some [(0xA0, 0xBF), any]
  else if lead = 0xED then
    some [(0x80, 0x9F), any]
  else if 0xE1 ≤ lead ∧ lead ≤ 0xEF then
    some [any, any]
  else if lead = 0xF0 then
    some [(0x90, 0xBF), any, any]
  else if 0xF1 ≤ lead ∧ lead ≤ 0xF3 then
    some [any, any, any]
  else if lead = 0xF4 then
    some [(0x80, 0x8F), any, any]
  else
    none

/-- The bytes at the start of a list that lie in the given ranges one by
one. -/
def fitting : List (UInt8 × UInt8) → List UInt8 → List UInt8
  | (low, high) :: ranges, byte :: rest =>
      if low ≤ byte ∧ byte ≤ high then byte :: fitting ranges rest else []
  | _, _ => []

/-- The character that a first byte and the bytes behind it encode. -/
def ofBytes (lead : UInt8) (tail : List UInt8) : Char :=
  let share := if tail.isEmpty then 0x80 else Nat.pow 2 (6 - tail.length)
  Char.ofNat (tail.foldl (fun code byte => code * 64 + byte.toNat % 64) (lead.toNat % share))

/-- Bytes as text, with replacement characters for what is no text. -/
def shownBytes : List UInt8 → List Char
  | [] => []
  | lead :: rest =>
      match continuation? lead with
      | none => '\ufffd' :: shownBytes rest
      | some ranges =>
          let tail := fitting ranges rest
          let char := if tail.length = ranges.length then ofBytes lead tail else '\ufffd'
          char :: shownBytes (rest.drop tail.length)
termination_by bytes => bytes.length
decreasing_by
  · simp
  · simp only [List.length_drop, List.length_cons]
    omega

end Text
end JspCompletion
