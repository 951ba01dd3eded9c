import JspCompletion.Markup.Cursor

/-!
# The grammar of well-formed pages

A well-formed page is a list of constructs.  Each construct is a syntax tree
that carries the proofs of its own well-formedness, has a text, and says what
a cursor inside it stands in.

What a construct says is given character by character: every character behind
the opener comes with the context of a cursor directly behind it.  Nothing
here refers to the pass that classifies cursors, apart from the two classes of
characters and the type of the answers.
-/

namespace JspCompletion
namespace Markup
namespace Grammar

/-! ## Characters with contexts -/

/-- A character, with the context of a cursor directly behind it. -/
structure Cell where
  char : Char
  context : CursorContext
deriving DecidableEq, Repr

/-- The text of cells. -/
def textOf (cells : List Cell) : List Char :=
  cells.map (·.char)

/-- Characters that all stand in one context. -/
def within (context : CursorContext) (chars : List Char) : List Cell :=
  chars.map fun char => { char, context }

/-- The context at a byte offset of cells, where `current` is the one in front
of them.  An offset inside a character has the context behind the character. -/
def contextAt (current : CursorContext) : List Cell → Nat → CursorContext
  | [], _ => current
  | _ :: _, 0 => current
  | cell :: rest, offset + 1 =>
      contextAt cell.context rest (offset + 1 - cell.char.utf8Size)

/-! ## Words and gaps -/

/-- A quote around a literal or an attribute value. -/
inductive Quote
  | single
  | double
deriving DecidableEq, Repr

/-- The quote as written. -/
def Quote.char : Quote → Char
  | single => '\''
  | double => '"'

/-- The mark in front of the brace of an expression. -/
inductive Mark
  | dollar
  | hash
deriving DecidableEq, Repr

/-- The mark as written. -/
def Mark.char : Mark → Char
  | dollar => '$'
  | hash => '#'

/-- The name of an attribute. -/
structure Word where
  chars : List Char
  nonempty : chars ≠ []
  allowed : ∀ char ∈ chars, Cursor.isNameChar char = true

/-- The name of a tag, which starts with a letter. -/
structure TagWord where
  first : Char
  letter : first.isAlpha = true
  others : List Char
  allowed : ∀ char ∈ others, Cursor.isNameChar char = true

/-- The characters of a tag name. -/
def TagWord.chars (word : TagWord) : List Char :=
  word.first :: word.others

/-- White space, possibly none. -/
structure Gap where
  chars : List Char
  blank : ∀ char ∈ chars, Text.isMarkupSpace char = true

/-- White space, at least one character. -/
structure Space where
  first : Char
  blank : Text.isMarkupSpace first = true
  others : Gap

/-- The characters of white space. -/
def Space.chars (space : Space) : List Char :=
  space.first :: space.others.chars

/-! ## Expressions -/

/-- A part of a string literal. -/
inductive LiteralPart (quote : Quote)
  /-- A character other than the quote and the backslash. -/
  | plain (char : Char) (ordinary : char ≠ quote.char ∧ char ≠ '\\')
  /-- A backslash and the character that it escapes. -/
  | escaped (char : Char)

/-- The text of a part of a literal. -/
def LiteralPart.chars {quote : Quote} : LiteralPart quote → List Char
  | plain char _ => [char]
  | escaped char => ['\\', char]

/-- The body of an expression: braces are balanced outside closed literals. -/
inductive Body
  | done
  /-- A character other than quotes and braces. -/
  | plain
      (char : Char)
      (ordinary : char ≠ '\'' ∧ char ≠ '"' ∧ char ≠ '\x7b' ∧ char ≠ '\x7d')
      (rest : Body)
  /-- A closed string literal. -/
  | literal (quote : Quote) (parts : List (LiteralPart quote)) (rest : Body)
  /-- A body in braces. -/
  | braces (inner rest : Body)

namespace Body

/-- The text of a body. -/
def chars : Body → List Char
  | done => []
  | plain char _ rest => char :: rest.chars
  | literal quote parts rest =>
      quote.char :: (parts.flatMap (·.chars) ++ quote.char :: rest.chars)
  | braces inner rest => '\x7b' :: (inner.chars ++ '\x7d' :: rest.chars)

/-- The contexts in a body, which differ only in whether a literal is open. -/
def cells (start : Nat) : Body → List Cell
  | done => []
  | plain char _ rest => { char, context := .expression start false } :: rest.cells start
  | literal quote parts rest =>
      { char := quote.char, context := .expression start true } ::
        (within (.expression start true) (parts.flatMap (·.chars)) ++
          { char := quote.char, context := .expression start false } :: rest.cells start)
  | braces inner rest =>
      { char := '\x7b', context := .expression start false } ::
        (inner.cells start ++
          { char := '\x7d', context := .expression start false } :: rest.cells start)

end Body

/-- An expression. -/
structure Expression where
  mark : Mark
  body : Body

namespace Expression

/-- The text of an expression. -/
def chars (expression : Expression) : List Char :=
  expression.mark.char :: '\x7b' :: (expression.body.chars ++ ['\x7d'])

/-- The contexts behind the opening brace at an offset, where the expression
stands in an outer context. -/
def inner (outer : CursorContext) (start : Nat) (expression : Expression) : List Cell :=
  expression.body.cells start ++ [{ char := '\x7d', context := outer }]

/-- The contexts in an expression that begins at an offset. -/
def cells (outer : CursorContext) (start : Nat) (expression : Expression) : List Cell :=
  { char := expression.mark.char, context := outer } ::
    { char := '\x7b', context := .expression (start + 2) false } ::
      expression.inner outer (start + 2)

end Expression

/-! ## Tags -/

/-- A part of an attribute value. -/
inductive ValuePart (quote : Quote)
  /-- A character other than the quote, the marks and the backslash. -/
  | plain
      (char : Char)
      (ordinary : char ≠ quote.char ∧ char ≠ '$' ∧ char ≠ '#' ∧ char ≠ '\\')
  /-- An expression. -/
  | expression (expression : Expression)

/-- The text of a part of a value. -/
def ValuePart.chars {quote : Quote} : ValuePart quote → List Char
  | plain char _ => [char]
  | expression written => written.chars

/-- The contexts in a part of a value that begins at an offset. -/
def ValuePart.cells
    {quote : Quote}
    (context : CursorContext)
    (start : Nat) : ValuePart quote → List Cell
  | plain char _ => [{ char, context }]
  | expression written => written.cells context start

/-- The contexts in the parts of a value. -/
def valueCells
    {quote : Quote}
    (context : CursorContext)
    (start : Nat) : List (ValuePart quote) → List Cell
  | [] => []
  | part :: rest =>
      part.cells context start ++ valueCells context (start + Text.size part.chars) rest

/-- An attribute. -/
inductive TagAttribute
  /-- A name alone. -/
  | bare (name : Word)
  /-- A name with a quoted value, and white space around the equals sign. -/
  | valued
      (name : Word)
      (before after : Gap)
      (quote : Quote)
      (parts : List (ValuePart quote))

namespace TagAttribute

/-- The text of an attribute. -/
def chars : TagAttribute → List Char
  | bare name => name.chars
  | valued name before after quote parts =>
      name.chars ++ before.chars ++ '=' :: (after.chars ++ quote.char ::
        (parts.flatMap (·.chars) ++ [quote.char]))

/-- The contexts in an attribute that begins at an offset, where `between` is
the context between attributes of the tag. -/
def cells (tagName : String) (between : CursorContext) (start : Nat) : TagAttribute → List Cell
  | bare name => within between name.chars
  | valued name before after quote parts =>
      let lead := name.chars ++ before.chars ++ '=' :: after.chars
      let valueStart := start + Text.size lead + 1
      let value : CursorContext :=
        .attributeValue tagName (String.ofList name.chars) valueStart
      within between lead ++ { char := quote.char, context := value } ::
        (valueCells value valueStart parts ++ [{ char := quote.char, context := between }])

end TagAttribute

/-- A start tag. -/
structure StartTag where
  /-- Its name. -/
  name : TagWord
  /-- Its attributes, each behind white space. -/
  attributes : List (Space × TagAttribute)
  /-- White space in front of the end. -/
  gap : Gap
  /-- The tag closes itself. -/
  slash : Bool

namespace StartTag

/-- The text of attributes with the white space in front of them. -/
def attributeChars : List (Space × TagAttribute) → List Char
  | [] => []
  | (space, attr) :: rest => space.chars ++ attr.chars ++ attributeChars rest

/-- The text behind the attributes. -/
def endChars (tag : StartTag) : List Char :=
  tag.gap.chars ++ (if tag.slash then ['/'] else [])

/-- The text of a start tag. -/
def chars (tag : StartTag) : List Char :=
  '<' :: (tag.name.chars ++ attributeChars tag.attributes ++ tag.endChars ++ ['>'])

/-- The contexts in attributes with the white space in front of them. -/
def attributeCells
    (tagName : String)
    (between : CursorContext)
    (start : Nat) : List (Space × TagAttribute) → List Cell
  | [] => []
  | (space, attr) :: rest =>
      let attrStart := start + Text.size space.chars
      within between space.chars ++ attr.cells tagName between attrStart ++
        attributeCells tagName between (attrStart + Text.size attr.chars) rest

/-- The contexts behind the bracket of a tag that begins at an offset. -/
def inner (start : Nat) (tag : StartTag) : List Cell :=
  let tagName := String.ofList tag.name.chars
  let between : CursorContext := .attributeName start tagName
  within (.tagName (start + 1) false) tag.name.chars ++
    attributeCells tagName between (start + 1 + Text.size tag.name.chars) tag.attributes ++
      within between tag.endChars ++ [{ char := '>', context := .text }]

end StartTag

/-! ## Pages -/

/-- The forms whose content is skipped. -/
inductive Skipped
  | pageComment
  | scriptlet
  | markupComment
deriving DecidableEq, Repr

namespace Skipped

/-- How a form opens. -/
def opener : Skipped → List Char
  | pageComment => ['<', '%', '-', '-']
  | scriptlet => ['<', '%']
  | markupComment => ['<', '!', '-', '-']

/-- What ends a form, up to the bracket. -/
def closer : Skipped → List Char
  | pageComment => ['-', '-', '%']
  | scriptlet => ['%']
  | markupComment => ['-', '-']

/-- What ends a form. -/
def terminator (form : Skipped) : List Char :=
  form.closer ++ ['>']

end Skipped

/-- A construct of a page. -/
inductive Construct
  /-- Template text. -/
  | text
      (chars : List Char)
      (plain : ∀ char ∈ chars, char ≠ '<' ∧ char ≠ '$' ∧ char ≠ '#' ∧ char ≠ '\\')
  /-- A comment, scriptlet or directive.  The body does not hold what ends the
  form, and that of a scriptlet does not make it a comment. -/
  | skipped
      (form : Skipped)
      (body : List Char)
      (free : ¬form.terminator <:+: body)
      (plain : form = .scriptlet → ¬['-', '-'] <+: body)
  /-- An end tag. -/
  | endTag (name : TagWord)
  /-- A start tag. -/
  | startTag (tag : StartTag)
  /-- An expression. -/
  | expression (expression : Expression)

namespace Construct

/-- What a construct opens with. -/
def opener : Construct → List Char
  | text _ _ => []
  | skipped form _ _ _ => form.opener
  | endTag _ => ['<', '/']
  | startTag _ => ['<']
  | expression written => [written.mark.char, '\x7b']

/-- The context directly behind the opener of a construct that begins at an
offset. -/
def opened (start : Nat) : Construct → CursorContext
  | text _ _ => .text
  | skipped _ _ _ _ => .ignored
  | endTag _ => .tagName (start + 2) true
  | startTag _ => .tagName (start + 1) false
  | expression _ => .expression (start + 2) false

/-- The contexts behind the opener of a construct that begins at an offset. -/
def inner (start : Nat) : Construct → List Cell
  | text chars _ => within .text chars
  | skipped form body _ _ =>
      within .ignored (body ++ form.closer) ++ [{ char := '>', context := .text }]
  | endTag name =>
      within (.tagName (start + 2) true) name.chars ++ [{ char := '>', context := .text }]
  | startTag tag => tag.inner start
  | expression written => written.inner .text (start + 2)

/-- The text of a construct. -/
def chars : Construct → List Char
  | text chars _ => chars
  | skipped form body _ _ => form.opener ++ body ++ form.terminator
  | endTag name => ['<', '/'] ++ name.chars ++ ['>']
  | startTag tag => tag.chars
  | expression written => written.chars

/-- The context at a byte offset of a construct that begins at `start`, from
the end of its opener on. -/
def context (start : Nat) (construct : Construct) (offset : Nat) : CursorContext :=
  contextAt (construct.opened start) (construct.inner start)
    (offset - Text.size construct.opener)

end Construct

/-- The text of a page. -/
def page (constructs : List Construct) : List Char :=
  constructs.flatMap (·.chars)

end Grammar
end Markup
end JspCompletion
