import JspCompletion.Proofs.Text.Position
import JspCompletion.Text.Utf8

/-!
# Texts as bytes

A part of a text may be cut out only between two borders of characters.  The
checked slices of this module fail where a byte offset is out of range or lies
within a character, so that a program whose slices are all checked and do not
fail never cuts a character.

A byte below 128 is a character of its own, and all bytes of other characters are
higher.  So a reader that knows only characters below 128 finds the same in the
bytes of a text as in its characters, also where the last character is cut.
-/

namespace JspCompletion
namespace Text

/-! ## Checked slices -/

/-- The offset is a border between characters, or an end of the text. -/
def isBorder (text : List Char) (offset : Nat) : Bool :=
  floorBoundary text offset == offset

/-- The characters between two byte offsets, unless these are out of order or no
borders. -/
def slice? (text : List Char) (start stop : Nat) : Option (List Char) :=
  if start ≤ stop ∧ isBorder text start ∧ isBorder text stop then
    some (slice text start stop)
  else
    none

theorem isBorder_iff
    (text : List Char)
    (offset : Nat) :
    isBorder text offset = true ↔ ∃ front back, text = front ++ back ∧ offset = size front := by
  rw [isBorder, beq_iff_eq, floorBoundary]
  constructor
  · intro border
    exact ⟨_, _, (before_append_after offset text).symm, border.symm⟩
  · rintro ⟨front, back, rfl, rfl⟩
    rw [before_size_append]

theorem eq_nil_of_size_eq_zero
    {text : List Char}
    (empty : size text = 0) :
    text = [] := by
  cases text with
  | nil => rfl
  | cons char rest =>
      have := char.utf8Size_pos
      rw [size_cons] at empty
      omega

/-- Of two front parts of a text, the smaller one is a front part of the other. -/
theorem prefix_of_size_le
    {text first second : List Char}
    (isFirst : first <+: text)
    (isSecond : second <+: text)
    (smaller : size first ≤ size second) :
    first <+: second := by
  rcases List.prefix_or_prefix_of_prefix isFirst isSecond with inOrder | ⟨more, rfl⟩
  · exact inOrder
  · have nothing : more = [] := by
      apply eq_nil_of_size_eq_zero
      rw [size_append] at smaller
      omega
    rw [nothing, List.append_nil]

theorem slice?_eq_some_iff
    (text : List Char)
    (start stop : Nat)
    (word : List Char) :
    slice? text start stop = some word ↔
      ∃ front back, text = front ++ word ++ back ∧ start = size front ∧
        stop = size front + size word := by
  unfold slice?
  constructor
  · split
    · rename_i valid
      obtain ⟨inOrder, startBorder, stopBorder⟩ := valid
      obtain ⟨front, behindStart, textEq, rfl⟩ := (isBorder_iff ..).mp startBorder
      obtain ⟨upTo, back, textEqStop, rfl⟩ := (isBorder_iff ..).mp stopBorder
      obtain ⟨middle, rfl⟩ : front <+: upTo :=
        prefix_of_size_le ⟨_, textEq.symm⟩ ⟨_, textEqStop.symm⟩ inOrder
      intro sliceEq
      obtain rfl : middle = word := by
        rw [textEqStop, size_append, slice_size_append] at sliceEq
        exact Option.some.inj sliceEq
      exact ⟨front, back, textEqStop, rfl, size_append ..⟩
    · exact nofun
  · rintro ⟨front, back, rfl, rfl, rfl⟩
    have startBorder : isBorder (front ++ word ++ back) (size front) = true :=
      (isBorder_iff ..).mpr ⟨front, word ++ back, by simp, rfl⟩
    have stopBorder : isBorder (front ++ word ++ back) (size front + size word) = true :=
      (isBorder_iff ..).mpr ⟨front ++ word, back, rfl, by simp⟩
    rw [if_pos ⟨Nat.le_add_right .., startBorder, stopBorder⟩, slice_size_append]

example : slice? ['a', 'é', 'b'] 1 3 = some ['é'] := by decide

example : slice? ['a', 'é', 'b'] 1 2 = none := by decide

section Slices

variable {text word : List Char} {start stop : Nat}

/-- What was cut out of a text is there when the text goes on. -/
theorem slice?_append
    (cut : slice? text start stop = some word)
    (more : List Char) :
    slice? (text ++ more) start stop = some word := by
  obtain ⟨front, back, rfl, startEq, stopEq⟩ := (slice?_eq_some_iff ..).mp cut
  refine (slice?_eq_some_iff ..).mpr ⟨front, back ++ more, ?_, startEq, stopEq⟩
  simp

theorem stop_eq_of_slice?
    (cut : slice? text start stop = some word) :
    stop = start + size word := by
  obtain ⟨front, back, -, rfl, rfl⟩ := (slice?_eq_some_iff ..).mp cut
  rfl

theorem stop_le_of_slice?
    (cut : slice? text start stop = some word) :
    stop ≤ size text := by
  obtain ⟨front, back, rfl, -, rfl⟩ := (slice?_eq_some_iff ..).mp cut
  simp only [size_append]
  omega

/-- The end of a text, from the border where it begins. -/
theorem slice?_size
    (front word : List Char) :
    slice? (front ++ word) (size front) (size (front ++ word)) = some word :=
  (slice?_eq_some_iff ..).mpr ⟨front, [], by simp, rfl, by simp⟩

/-- What lies between two borders goes on to a third. -/
theorem slice?_trans
    {next : List Char}
    {later : Nat}
    (first : slice? text start stop = some word)
    (second : slice? text stop later = some next) :
    slice? text start later = some (word ++ next) := by
  obtain ⟨front, back, rfl, rfl, rfl⟩ := (slice?_eq_some_iff ..).mp first
  obtain ⟨upTo, behind, textEq, sizeEq, rfl⟩ := (slice?_eq_some_iff ..).mp second
  have sameFront : front ++ word = upTo := by
    have left : front ++ word <+: front ++ word ++ back := List.prefix_append ..
    have right : upTo <+: front ++ word ++ back := by
      rw [textEq, List.append_assoc]
      exact List.prefix_append ..
    rw [← size_append] at sizeEq
    exact (prefix_of_size_le left right (Nat.le_of_eq sizeEq)).eq_of_length_le
      (prefix_of_size_le right left (Nat.le_of_eq sizeEq.symm)).length_le
  refine (slice?_eq_some_iff ..).mpr ⟨front, behind, ?_, rfl, ?_⟩
  · rw [textEq, ← sameFront]
    simp
  · simp only [size_append]
    omega

/-- The front part of what lies between two borders. -/
theorem slice?_front
    {first second : List Char}
    (cut : slice? text start stop = some (first ++ second)) :
    slice? text start (stop - size second) = some first := by
  obtain ⟨front, back, rfl, rfl, rfl⟩ := (slice?_eq_some_iff ..).mp cut
  refine (slice?_eq_some_iff ..).mpr ⟨front, second ++ back, by simp, rfl, ?_⟩
  rw [size_append]
  omega

/-- A text up to a border ends as what lies in front of that border. -/
theorem exists_slice?_zero
    (cut : slice? text start stop = some word) :
    ∃ front, slice? text 0 stop = some (front ++ word) := by
  obtain ⟨front, back, rfl, rfl, rfl⟩ := (slice?_eq_some_iff ..).mp cut
  exact ⟨front, (slice?_eq_some_iff ..).mpr ⟨[], back, rfl, rfl, by simp⟩⟩

theorem isBorder_start
    (cut : slice? text start stop = some word) :
    isBorder text start = true := by
  obtain ⟨front, back, rfl, rfl, -⟩ := (slice?_eq_some_iff ..).mp cut
  exact (isBorder_iff ..).mpr ⟨front, word ++ back, by simp, rfl⟩

theorem isBorder_stop
    (cut : slice? text start stop = some word) :
    isBorder text stop = true := by
  obtain ⟨front, back, rfl, -, rfl⟩ := (slice?_eq_some_iff ..).mp cut
  exact (isBorder_iff ..).mpr ⟨front ++ word, back, rfl, by simp⟩

end Slices

/-! ## Octets -/

/-- The bytes of a text, each as the character with that code. -/
def octets (text : List Char) : List Char :=
  (utf8 text).map fun byte => Char.ofNat byte.toNat

@[simp] theorem octets_nil : octets [] = [] := rfl

@[simp] theorem octets_append
    (front back : List Char) :
    octets (front ++ back) = octets front ++ octets back := by
  simp [octets]

theorem octets_cons
    (char : Char)
    (rest : List Char) :
    octets (char :: rest) = octets [char] ++ octets rest :=
  octets_append [char] rest

@[simp] theorem length_octets
    (text : List Char) :
    (octets text).length = size text := by
  induction text with
  | nil => rfl
  | cons char rest inductionHypothesis =>
      rw [octets_cons, List.length_append, inductionHypothesis, size_cons]
      simp [octets, utf8]

/-- A character below 128 is its own byte. -/
theorem octets_of_lt
    {char : Char}
    (low : char.toNat < 128) :
    octets [char] = [char] := by
  have code : char.val.toNat ≤ 127 := Nat.le_of_lt_succ low
  have encoded : String.utf8EncodeChar char = [UInt8.ofNat char.toNat] := by
    rw [String.utf8EncodeChar]
    exact if_pos code
  have byte : char.toNat % 256 = char.toNat := Nat.mod_eq_of_lt (by omega)
  simp [octets, utf8, encoded, byte]

theorem utf8Size_of_lt
    {char : Char}
    (low : char.toNat < 128) :
    char.utf8Size = 1 := by
  have length := congrArg List.length (octets_of_lt low)
  simpa using length

theorem size_eq_length
    {text : List Char}
    (low : ∀ char ∈ text, char.toNat < 128) :
    size text = text.length := by
  induction text with
  | nil => rfl
  | cons char rest inductionHypothesis =>
      rw [size_cons, List.length_cons, utf8Size_of_lt (low char List.mem_cons_self),
        inductionHypothesis fun other member => low other (List.mem_cons_of_mem _ member),
        Nat.add_comm]

theorem toNat_ofNat_byte (byte : UInt8) : (Char.ofNat byte.toNat).toNat = byte.toNat := by
  have small := byte.toNat_lt
  have isValid : byte.toNat.isValidChar := Or.inl (by omega)
  rw [Char.ofNat, dif_pos isValid]
  exact UInt32.toNat_ofNatLT ..

/-- The bytes of other characters are all at least 128. -/
theorem le_of_mem_octets
    {char : Char}
    (high : 128 ≤ char.toNat) :
    ∀ octet ∈ octets [char], 128 ≤ octet.toNat := by
  have code : ¬char.val.toNat ≤ 127 := Nat.not_le_of_lt high
  have bytes : ∀ byte ∈ String.utf8EncodeChar char, 128 ≤ byte.toNat := by
    rw [String.utf8EncodeChar]
    simp only [if_neg code]
    split
    · simp
      omega
    split
    · simp
      omega
    · simp
      omega
  intro octet member
  obtain ⟨byte, isByte, rfl⟩ := List.mem_map.mp member
  rw [toNat_ofNat_byte]
  exact bytes byte (by simpa [utf8] using isByte)

theorem octets_singleton_ne_nil (char : Char) : octets [char] ≠ [] := by
  intro empty
  have length := length_octets [char]
  have positive := char.utf8Size_pos
  rw [empty] at length
  simp at length
  omega

/-- Characters on both sides of 128 differ. -/
theorem ne_of_high
    {char other : Char}
    (high : 128 ≤ char.toNat)
    (low : other.toNat < 128) :
    char ≠ other := by
  rintro rfl
  omega

/-- That a fixed word is low is found by looking through it. -/
theorem lt_of_all
    {word : List Char}
    (low : (word.all fun char => char.toNat < 128) = true) :
    ∀ char ∈ word, char.toNat < 128 := by
  simpa using low

theorem lt_of_isAlphanum
    {char : Char}
    (isAlphanum : char.isAlphanum = true) :
    char.toNat < 128 := by
  delta Char.isAlphanum Char.isAlpha Char.isUpper Char.isLower Char.isDigit at isAlphanum
  simp only [Bool.or_eq_true, Bool.and_eq_true, decide_eq_true_eq, UInt32.le_iff_toNat_le,
    ge_iff_le] at isAlphanum
  change ((65 ≤ char.toNat ∧ char.toNat ≤ 90) ∨ (97 ≤ char.toNat ∧ char.toNat ≤ 122)) ∨
    (48 ≤ char.toNat ∧ char.toNat ≤ 57) at isAlphanum
  omega

theorem isAlphanum_of_high
    {char : Char}
    (high : 128 ≤ char.toNat) :
    char.isAlphanum = false := by
  rw [← Bool.not_eq_true]
  intro isAlphanum
  exact Nat.not_lt_of_le high (lt_of_isAlphanum isAlphanum)

/-- A test for some low characters fails for high ones. -/
theorem beq_of_high
    {char : Char}
    (high : 128 ≤ char.toNat)
    (other : Char)
    (low : other.toNat < 128) :
    (char == other) = false :=
  beq_eq_false_iff_ne.mpr (ne_of_high high low)

/-! ## Reading ahead -/

/-- The octets of some characters, the last of which may be cut. -/
inductive Encodes : List Char → List Char → Prop
  | nil : Encodes [] []
  | whole
      (char : Char)
      {rest tail : List Char}
      (encodes : Encodes rest tail) :
      Encodes (char :: rest) (octets [char] ++ tail)
  | cut
      {char : Char}
      {part : List Char}
      (high : 128 ≤ char.toNat)
      (nonempty : part ≠ [])
      (highPart : ∀ octet ∈ part, 128 ≤ octet.toNat) :
      Encodes [char] part

/-- The octets up to an offset are those of the characters that start before it. -/
theorem encodes_reaching
    (text : List Char)
    (offset : Nat) :
    Encodes (reaching offset text) ((octets text).take offset) := by
  induction text generalizing offset with
  | nil =>
      rw [reaching, octets_nil, List.take_nil]
      exact .nil
  | cons char rest inductionHypothesis =>
      cases offset with
      | zero => exact .nil
      | succ offset =>
          have length : (octets [char]).length = char.utf8Size := by simp
          rw [reaching, octets_cons]
          by_cases fits : char.utf8Size ≤ offset + 1
          · rw [List.take_append, length, List.take_of_length_le (by rw [length]; exact fits)]
            exact .whole char (inductionHypothesis _)
          · -- A character that is cut has several bytes.
            have high : 128 ≤ char.toNat := by
              by_contra low
              have single := congrArg List.length (octets_of_lt (Nat.lt_of_not_le low))
              rw [length] at single
              simp at single
              omega
            have nothing : offset + 1 - char.utf8Size = 0 := by omega
            have inFront : (offset + 1) - (octets [char]).length = 0 := by omega
            rw [nothing, List.take_append, inFront, List.take_zero, List.append_nil]
            have reached : reaching 0 rest = [] := by cases rest <;> rfl
            rw [reached]
            refine .cut high ?_ ?_
            · simp [octets_singleton_ne_nil]
            · intro octet member
              exact le_of_mem_octets high octet (List.mem_of_mem_take member)

theorem beq_of_map_eq
    {left right : Option Char}
    {other : Char}
    (same : left.map (· == other) = right.map (· == other)) :
    (left == some other) = (right == some other) := by
  cases left with
  | none =>
      cases right with
      | none => rfl
      | some => cases same
  | some =>
      cases right with
      | none => cases same
      | some => exact Option.some.inj same

section Encodes

variable {chars tail : List Char}

/-- The octets begin as the characters do, or both with something high. -/
theorem Encodes.cases_head
    (encodes : Encodes chars tail) :
    (chars = [] ∧ tail = []) ∨
      (∃ char rest others, char.toNat < 128 ∧ chars = char :: rest ∧ tail = char :: others ∧
        Encodes rest others) ∨
      ∃ char rest octet others, 128 ≤ char.toNat ∧ 128 ≤ octet.toNat ∧
        chars = char :: rest ∧ tail = octet :: others := by
  cases encodes with
  | nil => exact .inl ⟨rfl, rfl⟩
  | @whole char rest tail encodes =>
      right
      rcases Nat.lt_or_ge char.toNat 128 with low | high
      · left
        exact ⟨char, rest, tail, low, rfl, by rw [octets_of_lt low]; rfl, encodes⟩
      · right
        obtain ⟨octet, others, split⟩ := List.exists_cons_of_ne_nil (octets_singleton_ne_nil char)
        have highOctet := le_of_mem_octets high octet (by rw [split]; exact List.mem_cons_self)
        exact ⟨char, rest, octet, others ++ tail, high, highOctet, rfl, by rw [split]; rfl⟩
  | @cut char part high nonempty highPart =>
      right
      right
      obtain ⟨octet, others, rfl⟩ := List.exists_cons_of_ne_nil nonempty
      exact ⟨char, [], octet, others, high, highPart octet List.mem_cons_self, rfl, rfl⟩

/-- A word of low characters stands in front of the octets where it stands in
front of the characters. -/
theorem Encodes.isPrefixOf
    (encodes : Encodes chars tail)
    {word : List Char}
    (low : ∀ char ∈ word, char.toNat < 128) :
    word.isPrefixOf tail = word.isPrefixOf chars := by
  induction word generalizing chars tail with
  | nil => simp
  | cons first word inductionHypothesis =>
      rcases encodes.cases_head with ⟨rfl, rfl⟩ | ⟨char, rest, others, _, rfl, rfl, restEncodes⟩ |
        ⟨char, rest, octet, others, high, highOctet, rfl, rfl⟩
      · rfl
      · rw [List.isPrefixOf_cons_cons, List.isPrefixOf_cons_cons,
          inductionHypothesis restEncodes fun other member => low other (List.mem_cons_of_mem _ member)]
      · have lowFirst := low first List.mem_cons_self
        have notChar : (first == char) = false :=
          beq_eq_false_iff_ne.mpr (ne_of_high high lowFirst).symm
        have notOctet : (first == octet) = false :=
          beq_eq_false_iff_ne.mpr (ne_of_high highOctet lowFirst).symm
        rw [List.isPrefixOf_cons_cons, List.isPrefixOf_cons_cons, notChar, notOctet]
        rfl

/-- A test that only low characters pass has the same answer for the first octet
as for the first character. -/
theorem Encodes.head?_map
    (encodes : Encodes chars tail)
    (passes : Char → Bool)
    (low : ∀ char, 128 ≤ char.toNat → passes char = false) :
    tail.head?.map passes = chars.head?.map passes := by
  rcases encodes.cases_head with ⟨rfl, rfl⟩ | ⟨char, rest, others, _, rfl, rfl, -⟩ |
    ⟨char, rest, octet, others, high, highOctet, rfl, rfl⟩
  · rfl
  · rfl
  · rw [List.head?_cons, List.head?_cons, Option.map_some, Option.map_some, low char high,
      low octet highOctet]

theorem Encodes.head?_beq
    (encodes : Encodes chars tail)
    {other : Char}
    (low : other.toNat < 128) :
    (tail.head? == some other) = (chars.head? == some other) :=
  beq_of_map_eq (encodes.head?_map (· == other) fun _ high => beq_of_high high other low)

end Encodes

/-! ## Reading back -/

/-- The octets in front of a place, the last one first, where the characters in
front of it are given in reverse. -/
def octetsBehind (behind : List Char) : List Char :=
  (octets behind.reverse).reverse

theorem octetsBehind_cons
    (char : Char)
    (behind : List Char) :
    octetsBehind (char :: behind) = (octets [char]).reverse ++ octetsBehind behind := by
  simp [octetsBehind]

theorem octetsBehind_cons_of_lt
    {char : Char}
    (low : char.toNat < 128)
    (behind : List Char) :
    octetsBehind (char :: behind) = char :: octetsBehind behind := by
  rw [octetsBehind_cons, octets_of_lt low]
  rfl

theorem exists_octetsBehind_cons
    {char : Char}
    (high : 128 ≤ char.toNat)
    (behind : List Char) :
    ∃ octet others, octetsBehind (char :: behind) = octet :: others ∧ 128 ≤ octet.toNat := by
  have nonempty : (octets [char]).reverse ≠ [] := by simp [octets_singleton_ne_nil]
  obtain ⟨octet, others, split⟩ := List.exists_cons_of_ne_nil nonempty
  have member : octet ∈ octets [char] := by
    rw [← List.mem_reverse, split]
    exact List.mem_cons_self
  refine ⟨octet, others ++ octetsBehind behind, ?_, le_of_mem_octets high octet member⟩
  rw [octetsBehind_cons, split]
  rfl

section Behind

variable {passes : Char → Bool} (low : ∀ char, 128 ≤ char.toNat → passes char = false)

include low

/-- What passes a test for low characters only is the same read back in octets. -/
theorem takeWhile_octetsBehind
    (behind : List Char) :
    (octetsBehind behind).takeWhile passes = behind.takeWhile passes := by
  induction behind with
  | nil => rfl
  | cons char behind inductionHypothesis =>
      rcases Nat.lt_or_ge char.toNat 128 with isLow | isHigh
      · rw [octetsBehind_cons_of_lt isLow, List.takeWhile_cons, List.takeWhile_cons,
          inductionHypothesis]
      · obtain ⟨octet, others, split, highOctet⟩ := exists_octetsBehind_cons isHigh behind
        rw [split, List.takeWhile_cons, List.takeWhile_cons, low octet highOctet, low char isHigh]
        rfl

theorem dropWhile_octetsBehind
    (behind : List Char) :
    (octetsBehind behind).dropWhile passes = octetsBehind (behind.dropWhile passes) := by
  induction behind with
  | nil => rfl
  | cons char behind inductionHypothesis =>
      rcases Nat.lt_or_ge char.toNat 128 with isLow | isHigh
      · rw [octetsBehind_cons_of_lt isLow, List.dropWhile_cons, List.dropWhile_cons]
        split
        · exact inductionHypothesis
        · rw [octetsBehind_cons_of_lt isLow]
      · obtain ⟨octet, others, split, highOctet⟩ := exists_octetsBehind_cons isHigh behind
        have kept : ¬passes char = true := by simp [low char isHigh]
        have keptOctet : ¬passes octet = true := by simp [low octet highOctet]
        rw [List.dropWhile_cons, if_neg kept, split, List.dropWhile_cons, if_neg keptOctet]

theorem head?_octetsBehind
    (behind : List Char) :
    (octetsBehind behind).head?.map passes = behind.head?.map passes := by
  cases behind with
  | nil => rfl
  | cons char behind =>
      rcases Nat.lt_or_ge char.toNat 128 with isLow | isHigh
      · rw [octetsBehind_cons_of_lt isLow]
        rfl
      · obtain ⟨octet, others, split, highOctet⟩ := exists_octetsBehind_cons isHigh behind
        rw [split, List.head?_cons, List.head?_cons, Option.map_some, Option.map_some,
          low octet highOctet, low char isHigh]

end Behind

theorem head?_octetsBehind_beq
    {other : Char}
    (low : other.toNat < 128)
    (behind : List Char) :
    ((octetsBehind behind).head? == some other) = (behind.head? == some other) := by
  have fails : ∀ char : Char, 128 ≤ char.toNat → (char == other) = false :=
    fun _ high => beq_of_high high other low
  exact beq_of_map_eq (head?_octetsBehind fails behind)

end Text
end JspCompletion
