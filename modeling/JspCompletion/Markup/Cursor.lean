import JspCompletion.Text.Blank
import JspCompletion.Text.Size

/-!
# Where the cursor stands

One forward pass over the text in front of the cursor tells whether a tag
name, an attribute, a value or an expression is being written there.  The pass
is a machine with a state and the characters read so far; each step reads one
form at the front of what is left.  Nothing behind the cursor is looked at.
-/

namespace JspCompletion
namespace Markup

/-- What the cursor is in. -/
inductive CursorContext
  /-- Plain template text. -/
  | text
  /-- A scriptlet, directive or comment. -/
  | ignored
  /-- A tag name that starts at an offset, of an end tag if `closing`. -/
  | tagName (nameStart : Nat) (closing : Bool)
  /-- Between the attributes of the start tag at an offset. -/
  | attributeName (tagStart : Nat) (tagName : String)
  /-- The quoted value of an attribute. -/
  | attributeValue (tagName attr : String) (valueStart : Nat)
  /-- An expression whose body starts at an offset. -/
  | expression (start : Nat) (inString : Bool)
deriving DecidableEq, Repr

/-- The cursor is inside an expression. -/
def CursorContext.isExpression : CursorContext → Bool
  | expression _ _ => true
  | _ => false

namespace Cursor

/-- The tag that is being written. -/
structure TagHead where
  /-- The offset of the opening bracket. -/
  start : Nat
  /-- The name of the tag. -/
  name : List Char
  /-- It is an end tag. -/
  closing : Bool
deriving DecidableEq, Repr

/-- The attribute value that is being written. -/
structure ValueHead where
  /-- The tag around it. -/
  tag : TagHead
  /-- The name of the attribute, empty if none stands in front. -/
  attr : List Char
  /-- The quote that ends the value. -/
  quote : Char
  /-- The offset behind the opening quote. -/
  start : Nat
deriving DecidableEq, Repr

/-- What the pass is in the middle of. -/
inductive State
  /-- Template text. -/
  | text
  /-- A tag name. -/
  | tagName (start nameStart : Nat) (closing : Bool)
  /-- A tag, behind its name. -/
  | inTag (tag : TagHead)
  /-- A quoted attribute value. -/
  | value (head : ValueHead)
  /-- An expression, with the number of open braces, the quote of an open
  string literal, and the value around it. -/
  | expression (start depth : Nat) (literal : Option Char) (within : Option ValueHead)
  /-- A part that is skipped through its terminator. -/
  | ignored (terminator : List Char)
deriving DecidableEq, Repr

/-- The character may be part of a tag name. -/
def isNameChar (char : Char) : Bool :=
  char.isAlphanum || char == ':' || char == '_' || char == '-' || char == '.'

/-- The text in front, given in reverse, does not escape what follows. -/
def unescaped (behind : List Char) : Bool :=
  behind.head? != some '\\'

/-- The attribute named in front of a quote, where the text in front is given
in reverse. -/
def attributeBefore (behind : List Char) : List Char :=
  match behind.dropWhile Text.isMarkupSpace with
  | '=' :: rest => ((rest.dropWhile Text.isMarkupSpace).takeWhile isNameChar).reverse
  | _ => []

/-- An expression opens at the front of the text ahead. -/
def opensExpression (behind : List Char) (char : Char) (rest : List Char) : Bool :=
  (char == '$' || char == '#') && rest.head? == some '\x7b' && unescaped behind

/-- The text ahead starts with a word. -/
def ahead (word : String) (char : Char) (rest : List Char) : Bool :=
  word.toList.isPrefixOf (char :: rest)

/-- One step in template text. -/
def stepText (behind : List Char) (char : Char) (rest : List Char) : State × Nat :=
  if ahead "<%--" char rest then
    (.ignored "--%>".toList, 3)
  else if ahead "<%" char rest then
    (.ignored "%>".toList, 1)
  else if ahead "<!--" char rest then
    (.ignored "-->".toList, 3)
  else if ahead "</" char rest then
    (.tagName (Text.size behind) (Text.size behind + 2) true, 1)
  else if char == '<' && rest.head?.all Char.isAlpha then
    (.tagName (Text.size behind) (Text.size behind + 1) false, 0)
  else if opensExpression behind char rest then
    (.expression (Text.size behind + 2) 0 none none, 1)
  else
    (.text, 0)

/-- One step inside an expression. -/
def stepExpression
    (start depth : Nat)
    (literal : Option Char)
    (within : Option ValueHead)
    (char : Char) : State × Nat :=
  match literal with
  | some quote =>
      if char == '\\' then
        (.expression start depth literal within, 1)
      else if char == quote then
        (.expression start depth none within, 0)
      else
        (.expression start depth literal within, 0)
  | none =>
      if char == '\'' || char == '"' then
        (.expression start depth (some char) within, 0)
      else if char == '\x7b' then
        (.expression start (depth + 1) none within, 0)
      else if char == '\x7d' then
        match depth, within with
        | depth + 1, _ => (.expression start depth none within, 0)
        | 0, some head => (.value head, 0)
        | 0, none => (.text, 0)
      else
        (.expression start depth none within, 0)

/-- One step: the state after reading a form at the front of the text ahead,
and the number of further characters that belong to the form.  A character
that cannot go on with a tag is read again as template text. -/
def step (state : State) (behind : List Char) (char : Char) (rest : List Char) :
    State × Nat :=
  match state with
  | .text => stepText behind char rest
  | .tagName start _ closing =>
      if isNameChar char then
        (state, 0)
      else if Text.isMarkupSpace char || char == '/' then
        (.inTag { start, name := (behind.takeWhile isNameChar).reverse, closing }, 0)
      else if char == '>' then
        (.text, 0)
      else
        stepText behind char rest
  | .inTag tag =>
      if char == '>' then
        (.text, 0)
      else if char == '"' || char == '\'' then
        (.value
          { tag
            attr := attributeBefore behind
            quote := char
            start := Text.size behind + 1 }, 0)
      else if char == '<' then
        stepText behind char rest
      else
        (state, 0)
  | .value head =>
      if char == head.quote then
        (.inTag head.tag, 0)
      else if opensExpression behind char rest then
        (.expression (Text.size behind + 2) 0 none (some head), 1)
      else
        (state, 0)
  | .expression start depth literal within =>
      stepExpression start depth literal within char
  | .ignored terminator =>
      if terminator.isPrefixOf (char :: rest) then
        (.text, terminator.length - 1)
      else
        (state, 0)

/-- The state after reading a text, where `skip` further characters belong to
the form read last and `behind` is what was read before, in reverse. -/
def run : (state : State) → (skip : Nat) → (behind text : List Char) → State
  | state, _, _, [] => state
  | state, skip + 1, behind, char :: rest => run state skip (char :: behind) rest
  | state, 0, behind, char :: rest =>
      run (step state behind char rest).1 (step state behind char rest).2
        (char :: behind) rest

/-- What the cursor is in when the pass stops in a state. -/
def State.context : State → CursorContext
  | text => .text
  | ignored _ => .ignored
  | tagName _ nameStart closing => .tagName nameStart closing
  | inTag tag =>
      if tag.closing then .text else .attributeName tag.start (String.ofList tag.name)
  | value head =>
      .attributeValue (String.ofList head.tag.name) (String.ofList head.attr) head.start
  | expression start _ literal _ => .expression start literal.isSome

end Cursor

/-- What the cursor is in at a byte offset of a text.  A character cut by the
offset is taken whole: its bytes have no meaning of their own. -/
def classify (text : List Char) (offset : Nat) : CursorContext :=
  (Cursor.run .text 0 [] (Text.reaching offset text)).context

end Markup
end JspCompletion
