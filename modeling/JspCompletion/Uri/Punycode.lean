/-!
# Domain labels in ASCII

A label with characters beyond ASCII is written by ASCII letters and digits:
first its ASCII characters, then for each further character, in the order of
their code points, how many code points and places lie between it and the one
before.  These distances are numbers of base 36 whose places adapt to what was
written so far.
-/

namespace JspCompletion
namespace Uri
namespace Punycode

/-- The digit for a value: letters for the lowest, then the decimal digits. -/
def digitChar (value : Nat) : Char :=
  if value < 26 then Char.ofNat ('a'.toNat + value) else Char.ofNat ('0'.toNat + value - 26)

/-- The value from which on a digit at a place has others behind it. -/
def threshold (place bias : Nat) : Nat :=
  if place ≤ bias then 1 else if bias + 26 ≤ place then 26 else place - bias

theorem one_le_threshold (place bias : Nat) : 1 ≤ threshold place bias := by
  unfold threshold
  split
  · omega
  · split <;> omega

/-- The digits of a distance, from a place on. -/
def digits (bias place distance : Nat) : List Char :=
  let limit := threshold place bias
  if distance < limit then
    [digitChar distance]
  else
    digitChar (limit + (distance - limit) % (36 - limit)) ::
      digits bias (place + 36) ((distance - limit) / (36 - limit))
termination_by distance
decreasing_by
  have positive := one_le_threshold place bias
  calc
    (distance - threshold place bias) / (36 - threshold place bias)
        ≤ distance - threshold place bias := Nat.div_le_self _ _
    _ < distance := by omega

/-- The bias for a scaled distance. -/
def biasOf (place distance : Nat) : Nat :=
  if 455 < distance then
    biasOf (place + 36) (distance / 35)
  else
    place + 36 * distance / (distance + 38)
termination_by distance
decreasing_by exact Nat.div_lt_self (by omega) (by omega)

/-- The bias after a distance, when `count` characters are written. -/
def adapt (distance count : Nat) (isFirst : Bool) : Nat :=
  let scaled := if isFirst then distance / 700 else distance / 2
  biasOf 0 (scaled + scaled / count)

/-- What is written so far. -/
structure State where
  /-- The digits. -/
  out : List Char
  /-- The distance from the last written character. -/
  distance : Nat
  /-- The bias. -/
  bias : Nat
  /-- The number of characters that are written. -/
  count : Nat
deriving DecidableEq, Repr

/-- Pass a character of the label while those with a code point are written.
The label has `basic` characters of ASCII. -/
def pass (basic code : Nat) (state : State) (char : Char) : State :=
  if char.toNat < code then
    { state with distance := state.distance + 1 }
  else if char.toNat = code then
    { out := state.out ++ digits state.bias 36 state.distance
      distance := 0
      bias := adapt state.distance (state.count + 1) (state.count == basic)
      count := state.count + 1 }
  else
    state

/-- Write the characters with the given code points, which increase; `next` is
the lowest code point that was not looked at. -/
def writeFrom (label : List Char) (basic : Nat) : (next : Nat) → State → List Nat → State
  | _, state, [] => state
  | next, state, code :: rest =>
      let state :=
        { state with distance := state.distance + (code - next) * (state.count + 1) }
      let state := label.foldl (pass basic code) state
      writeFrom label basic (code + 1) { state with distance := state.distance + 1 } rest

/-- The character is one of ASCII. -/
def isBasic (char : Char) : Bool :=
  char.toNat < 128

/-- A label in ASCII, without the mark for labels so written. -/
def encode (label : List Char) : List Char :=
  let basic := label.filter isBasic
  let codes := ((label.filter (!isBasic ·)).map Char.toNat).eraseDups.mergeSort (· ≤ ·)
  let start : State := { out := [], distance := 0, bias := 72, count := basic.length }
  basic ++ (if basic.isEmpty then [] else ['-']) ++
    (writeFrom label basic.length 128 start codes).out

end Punycode

/-- A label of a domain in ASCII. -/
def asciiLabel (label : List Char) : List Char :=
  if label.all Punycode.isBasic then label else "xn--".toList ++ Punycode.encode label

end Uri
end JspCompletion
