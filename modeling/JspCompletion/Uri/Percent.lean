import JspCompletion.Text.Digit

/-!
# Percent encoding

Characters that may not stand in a part of a uri are written as the bytes of
their UTF-8 form, each a `%` with two hexadecimal digits.  Decoding gives bytes,
which need not be text again.
-/

namespace JspCompletion
namespace Uri
namespace Percent

/-- Control characters and everything beyond ASCII are always encoded. -/
def isAlwaysEncoded (char : Char) : Bool :=
  char.toNat < 0x20 || 0x7e < char.toNat

/-- A byte as `%` and two digits. -/
def encodeByte (byte : UInt8) : List Char :=
  let digit (value : Nat) : Char :=
    if value < 10 then Char.ofNat ('0'.toNat + value) else Char.ofNat ('A'.toNat + value - 10)
  ['%', digit (byte.toNat / 16), digit (byte.toNat % 16)]

/-- The text with the characters of a set encoded. -/
def encode (set : Char → Bool) (text : List Char) : List Char :=
  text.flatMap fun char =>
    if set char then (String.utf8EncodeChar char).flatMap encodeByte else [char]

/-- The bytes that a text stands for.  A `%` without two digits behind it
stands for itself. -/
def decode : List Char → List UInt8
  | '%' :: high :: low :: rest =>
      match Text.digit? 16 high, Text.digit? 16 low with
      | some highValue, some lowValue =>
          UInt8.ofNat (16 * highValue + lowValue) :: decode rest
      | _, _ => String.utf8EncodeChar '%' ++ decode (high :: low :: rest)
  | char :: rest => String.utf8EncodeChar char ++ decode rest
  | [] => []

end Percent
end Uri
end JspCompletion
