import JspCompletion.Descriptor.Suggest
import JspCompletion.Text.Size

/-!
# What an editor inserts for a snippet

An editor reads a snippet from left to right.  A backslash makes the special
character behind it stand for itself; a dollar sign opens a tab stop, alone or
with a placeholder; and a closing brace ends the innermost placeholder.  The
result is the inserted text together with the places of the tab stops in it,
where a stop with a placeholder lies at the placeholder's start.

Variables and choices, whose text depends on the editor, are not read: a
snippet that holds one has no expansion here, nor has one whose placeholders
are not closed.
-/

namespace JspCompletion
namespace Snippet

/-! ## Reading -/

/-- A tab stop in inserted text. -/
structure Stop where
  /-- Its number. -/
  index : Nat
  /-- Its byte offset. -/
  offset : Nat
deriving DecidableEq, Repr

/-- What is inserted for a snippet. -/
structure Expansion where
  /-- The inserted text. -/
  text : List Char := []
  /-- The tab stops, in the order of the snippet. -/
  stops : List Stop := []
deriving DecidableEq, Repr

namespace Expansion

/-- More text behind what is inserted so far. -/
def add (done : Expansion) (chars : List Char) : Expansion :=
  { done with text := done.text ++ chars }

/-- A tab stop behind what is inserted so far. -/
def mark (done : Expansion) (index : Nat) : Expansion :=
  { done with stops := done.stops ++ [{ index, offset := Text.size done.text }] }

/-- The tab stop `index` stands at an offset, and nowhere else. -/
def StopsAt (done : Expansion) (index offset : Nat) : Prop :=
  ∀ stop, stop ∈ done.stops ∧ stop.index = index ↔ stop = { index, offset }

@[simp] theorem text_add
    (done : Expansion)
    (chars : List Char) :
    (done.add chars).text = done.text ++ chars := rfl

@[simp] theorem stops_add
    (done : Expansion)
    (chars : List Char) :
    (done.add chars).stops = done.stops := rfl

@[simp] theorem text_mark
    (done : Expansion)
    (index : Nat) :
    (done.mark index).text = done.text := rfl

@[simp] theorem mem_stops_mark
    {done : Expansion}
    {index : Nat}
    {stop : Stop} :
    stop ∈ (done.mark index).stops ↔
      stop ∈ done.stops ∨ stop.index = index ∧ stop.offset = Text.size done.text := by
  rw [mark, List.mem_append, List.mem_singleton, Stop.mk.injEq]

@[simp] theorem add_nil (done : Expansion) : done.add [] = done := by
  simp [add]

@[simp] theorem add_add
    (done : Expansion)
    (left right : List Char) :
    (done.add left).add right = done.add (left ++ right) := by
  simp [add]

end Expansion

/-- A form at the front of a snippet. -/
inductive Form
  /-- A character that is inserted. -/
  | inserted (char : Char)
  /-- A tab stop without a placeholder. -/
  | stop (index : Nat)
  /-- A tab stop, up to its placeholder. -/
  | opening (index : Nat)
  /-- The end of a placeholder. -/
  | closing
deriving DecidableEq, Repr

/-- The character may start the name of a variable. -/
def isVariableStart (char : Char) : Bool :=
  char.isAlpha || char == '_'

/-- The form that a dollar sign opens, and the number of further characters
that belong to it. -/
def dollarForm? : List Char → Option (Form × Nat)
  | '\x7b' :: inner =>
      let digits := inner.takeWhile Char.isDigit
      if digits.isEmpty then
        none
      else
        match inner.dropWhile Char.isDigit with
        | ':' :: _ => some (.opening (Nat.ofDigitChars 10 digits 0), digits.length + 2)
        | '\x7d' :: _ => some (.stop (Nat.ofDigitChars 10 digits 0), digits.length + 2)
        | _ => none
  | rest =>
      let digits := rest.takeWhile Char.isDigit
      if !digits.isEmpty then
        some (.stop (Nat.ofDigitChars 10 digits 0), digits.length)
      else if rest.head?.any isVariableStart then
        none
      else
        some (.inserted '$', 0)

/-- The form at the front of a snippet inside `depth` placeholders, and the
number of further characters that belong to it. -/
def form? (depth : Nat) (char : Char) (rest : List Char) : Option (Form × Nat) :=
  if char == '\\' then
    match rest with
    | next :: _ => if isSpecial next then some (.inserted next, 1) else some (.inserted '\\', 0)
    | [] => some (.inserted '\\', 0)
  else if char == '$' then
    dollarForm? rest
  else if char == '\x7d' && depth != 0 then
    some (.closing, 0)
  else
    some (.inserted char, 0)

/-- The number of open placeholders behind a form. -/
def Form.depthAfter (depth : Nat) : Form → Nat
  | opening _ => depth + 1
  | closing => depth - 1
  | _ => depth

/-- What is inserted behind a form. -/
def Form.insert (done : Expansion) : Form → Expansion
  | inserted char => done.add [char]
  | stop index | opening index => done.mark index
  | closing => done

/-- Read on inside `depth` placeholders, where `skip` further characters belong
to the form read last. -/
def read : (skip depth : Nat) → Expansion → List Char → Option Expansion
  | _, 0, done, [] => some done
  | _, _ + 1, _, [] => none
  | skip + 1, depth, done, _ :: rest => read skip depth done rest
  | 0, depth, done, char :: rest =>
      match form? depth char rest with
      | some (form, more) => read more (form.depthAfter depth) (form.insert done) rest
      | none => none

/-- What an editor inserts for a snippet. -/
def expand? (snippet : String) : Option Expansion :=
  read 0 0 {} snippet.toList

example :
    expand? "a $\x7b2:b\\\x7d\x7d$1" =
      some { text := "a b\x7d".toList, stops := [⟨2, 2⟩, ⟨1, 4⟩] } := by
  decide

/-! ## Text -/

variable {depth : Nat} {done : Expansion} {rest : List Char}

theorem read_skip
    (front : List Char)
    (depth : Nat)
    (done : Expansion)
    (rest : List Char) :
    read front.length depth done (front ++ rest) = read 0 depth done rest := by
  induction front with
  | nil => rfl
  | cons char front inductionHypothesis => simpa [read] using inductionHypothesis

/-- A form whose characters are known is read through its last one. -/
theorem read_form
    {char : Char}
    {front : List Char}
    {form : Form}
    (formEq : form? depth char (front ++ rest) = some (form, front.length)) :
    read 0 depth done (char :: (front ++ rest)) =
      read 0 (form.depthAfter depth) (form.insert done) rest := by
  rw [read, formEq]
  exact read_skip front _ _ rest

/-- Characters that are read as themselves, whatever follows them, are inserted. -/
theorem read_inserted
    {chars : List Char}
    (themselves : ∀ char ∈ chars, ∀ rest, form? depth char rest = some (.inserted char, 0)) :
    read 0 depth done (chars ++ rest) = read 0 depth (done.add chars) rest := by
  induction chars generalizing done with
  | nil => simp
  | cons char chars inductionHypothesis =>
      have formEq : form? depth char ([] ++ (chars ++ rest)) = some (.inserted char, 0) :=
        themselves char List.mem_cons_self _
      have others : ∀ other ∈ chars, ∀ rest, form? depth other rest = some (.inserted other, 0) :=
        fun other member => themselves other (List.mem_cons_of_mem _ member)
      calc read 0 depth done (char :: (chars ++ rest))
          = read 0 depth (done.add [char]) (chars ++ rest) := read_form formEq
        _ = read 0 depth ((done.add [char]).add chars) rest := inductionHypothesis others
        _ = read 0 depth (done.add (char :: chars)) rest := by simp

/-- Characters without a meaning of their own are inserted. -/
theorem read_plain
    {chars : List Char}
    (plain : ∀ char ∈ chars, isSpecial char = false) :
    read 0 depth done (chars ++ rest) = read 0 depth (done.add chars) rest := by
  apply read_inserted
  intro char member rest
  have ordinary := plain char member
  simp only [isSpecial, Bool.or_eq_false_iff] at ordinary
  simp [form?, ordinary]

/-- No character opens a form.  A closing brace has a meaning of its own only inside
placeholders. -/
def Unmarked (chars : List Char) : Prop :=
  '$' ∉ chars ∧ '\\' ∉ chars

instance (chars : List Char) : Decidable (Unmarked chars) :=
  inferInstanceAs (Decidable (_ ∧ _))

theorem unmarked_append {left right : List Char} :
    Unmarked (left ++ right) ↔ Unmarked left ∧ Unmarked right := by
  simp only [Unmarked, List.mem_append, not_or]
  exact and_and_and_comm

theorem unmarked_of_plain
    {chars : List Char}
    (plain : ∀ char ∈ chars, isSpecial char = false) :
    Unmarked chars :=
  ⟨fun member => absurd (plain _ member) (by decide),
    fun member => absurd (plain _ member) (by decide)⟩

/-- Outside placeholders text without marks is inserted. -/
theorem read_unmarked
    {chars : List Char}
    (unmarked : Unmarked chars) :
    read 0 0 done (chars ++ rest) = read 0 0 (done.add chars) rest := by
  apply read_inserted
  intro char member rest
  have noDollar : char ≠ '$' := ne_of_mem_of_not_mem member unmarked.1
  have noBackslash : char ≠ '\\' := ne_of_mem_of_not_mem member unmarked.2
  simp [form?, noDollar, noBackslash]

/-- Escaped text stands for itself, whatever it holds. -/
theorem read_escapeChars
    (chars : List Char) :
    read 0 depth done (escapeChars chars ++ rest) = read 0 depth (done.add chars) rest := by
  induction chars generalizing done with
  | nil => simp [escapeChars]
  | cons char chars inductionHypothesis =>
      have later : read 0 depth (done.add [char]) (escapeChars chars ++ rest) =
          read 0 depth (done.add (char :: chars)) rest := by
        rw [inductionHypothesis, Expansion.add_add, List.singleton_append]
      rw [escapeChars, List.flatMap_cons, List.append_assoc, ← escapeChars]
      by_cases special : isSpecial char = true
      · have formEq : form? depth '\\' ([char] ++ (escapeChars chars ++ rest)) =
            some (.inserted char, 1) := by
          simp [form?, special]
        rw [if_pos special, ← later]
        exact read_form formEq
      · have plain : ∀ other ∈ [char], isSpecial other = false := by
          simpa using special
        rw [if_neg special, read_plain plain, later]

/-! ## Tab stops -/

theorem takeWhile_toDigits_append
    (index : Nat)
    (notDigit : rest.head?.any Char.isDigit = false) :
    (Nat.toDigits 10 index ++ rest).takeWhile Char.isDigit = Nat.toDigits 10 index ∧
      (Nat.toDigits 10 index ++ rest).dropWhile Char.isDigit = rest := by
  have digits : ∀ char ∈ Nat.toDigits 10 index, char.isDigit = true := fun char member =>
    Nat.isDigit_of_mem_toDigits (by decide) (by decide) member
  rw [List.takeWhile_append_of_pos digits, List.dropWhile_append_of_pos digits]
  cases rest with
  | nil => simp
  | cons char rest =>
      have stops : ¬char.isDigit = true := by simpa using notDigit
      simp [stops]

/-- An empty tab stop, with something behind it that does not go on with its
number. -/
theorem read_empty_stop
    (index : Nat)
    (notDigit : rest.head?.any Char.isDigit = false) :
    read 0 depth done ((stop index "").toList ++ rest) = read 0 depth (done.mark index) rest := by
  obtain ⟨digitsEq, -⟩ := takeWhile_toDigits_append index notDigit
  have formEq : form? depth '$' (Nat.toDigits 10 index ++ rest) =
      some (.stop index, (Nat.toDigits 10 index).length) := by
    obtain ⟨first, others, digits⟩ := List.exists_cons_of_ne_nil
      (Nat.toDigits_ne_nil (n := index) (b := 10))
    have notBrace : first ≠ '\x7b' := by
      rintro rfl
      have isDigit : '\x7b'.isDigit = true :=
        Nat.isDigit_of_mem_toDigits (b := 10) (n := index) (by decide) (by decide) (by simp [digits])
      exact absurd isDigit (by decide)
    have value := Nat.ofDigitChars_ten_toDigits (n := index)
    rw [digits, List.cons_append] at digitsEq
    rw [digits] at value ⊢
    simp [form?, dollarForm?, notBrace, digitsEq, value]
  have textEq : (stop index "").toList = '$' :: Nat.toDigits 10 index := by
    simp [stop]
  rw [textEq, List.cons_append]
  exact read_form formEq

/-- A tab stop with its placeholder. -/
theorem read_stop
    (index : Nat)
    (placeholder : String)
    (notDigit : placeholder = "" → rest.head?.any Char.isDigit = false) :
    read 0 depth done ((stop index placeholder).toList ++ rest) =
      read 0 depth ((done.mark index).add placeholder.toList) rest := by
  by_cases empty : placeholder = ""
  · subst empty
    rw [read_empty_stop index (notDigit rfl)]
    simp
  · have textEq : (stop index placeholder).toList ++ rest =
        '$' :: (('\x7b' :: (Nat.toDigits 10 index ++ [':'])) ++
          (escapeChars placeholder.toList ++ ('\x7d' :: rest))) := by
      simp [stop, empty, escape]
    have opens : form? depth '$' (('\x7b' :: (Nat.toDigits 10 index ++ [':'])) ++
        (escapeChars placeholder.toList ++ ('\x7d' :: rest))) =
        some (.opening index, ('\x7b' :: (Nat.toDigits 10 index ++ [':'])).length) := by
      have colon : (':' :: (escapeChars placeholder.toList ++ '\x7d' :: rest)).head?.any
          Char.isDigit = false := rfl
      obtain ⟨digitsEq, restEq⟩ := takeWhile_toDigits_append index colon
      simp [form?, dollarForm?, digitsEq, restEq]
    have closes : form? (depth + 1) '\x7d' ([] ++ rest) = some (.closing, 0) := by
      simp [form?]
    rw [textEq]
    calc read 0 depth done _
        = read 0 (depth + 1) (done.mark index)
            (escapeChars placeholder.toList ++ ('\x7d' :: rest)) := read_form opens
      _ = read 0 (depth + 1) ((done.mark index).add placeholder.toList) ('\x7d' :: rest) :=
          read_escapeChars _
      _ = read 0 depth ((done.mark index).add placeholder.toList) rest := read_form closes

/-- A snippet between the delimiters of an expression, which stand for
themselves. -/
theorem read_inExpression
    {inner : String}
    {filled : Expansion}
    (reads : ∀ tail, tail.head?.any Char.isDigit = false →
      read 0 depth (done.add ['$', '\x7b']) (inner.toList ++ tail) = read 0 depth filled tail) :
    read 0 depth done ((inExpression inner).toList ++ rest) =
      read 0 depth (filled.add ['\x7d']) rest := by
  have textEq : (inExpression inner).toList ++ rest =
      escapeChars ['$'] ++ (['\x7b'] ++ (inner.toList ++ (escapeChars ['\x7d'] ++ rest))) := by
    simp [inExpression, escapeChars, isSpecial]
  rw [textEq, read_escapeChars, read_plain (by simp [isSpecial]), Expansion.add_add]
  rw [List.singleton_append, reads _ (by rfl), read_escapeChars]

end Snippet
end JspCompletion
