/-!
# The tokens of an XML document

A document is cut into tags, text, character data and document types.  Comments
and processing instructions have to be closed properly and are then dropped.
The cut is made by a machine that reads one character at a time; its mode holds
what was read of the token at hand, in reverse.
-/

namespace JspCompletion
namespace Xml

/-- The white space of XML. -/
def isSpace (char : Char) : Bool :=
  char == ' ' || char == '\t' || char == '\n' || char == '\r'

/-- A piece of a document. -/
inductive Token
  /-- A start tag: its name, what follows the name, and whether it closes
  itself. -/
  | start (name attributes : List Char) (closed : Bool)
  /-- An end tag. -/
  | stop (name : List Char)
  /-- Text as written. -/
  | text (raw : List Char)
  /-- Character data, which stands for itself. -/
  | data (content : List Char)
  /-- A document type, of which nothing is kept. -/
  | documentType
  /-- Something that breaks the document. -/
  | broken
deriving DecidableEq, Repr

namespace Token

/-- What the machine is in the middle of. -/
inductive Mode
  /-- Text. -/
  | text (read : List Char)
  /-- Markup of which only the opening bracket is read. -/
  | opened
  /-- A start tag, with the quote of an open value. -/
  | startTag (read : List Char) (quote : Option Char)
  /-- An end tag. -/
  | stopTag (read : List Char)
  /-- A processing instruction. -/
  | instruction (read : List Char)
  /-- A declaration of which only the mark is read. -/
  | declared
  /-- A comment. -/
  | comment (read : List Char)
  /-- Character data. -/
  | data (read : List Char)
  /-- A document type, with the number of open brackets inside. -/
  | documentType (read : List Char) (depth : Nat)
deriving DecidableEq, Repr

/-- The text token of what was read, unless nothing was. -/
def ofText (read : List Char) : List Token :=
  if read.isEmpty then [] else [.text read.reverse]

/-- The start tag with a content between its brackets. -/
def ofStartTag (content : List Char) : Token :=
  if content.getLast? = some '/' then
    let content := content.dropLast
    .start (content.takeWhile (!isSpace ·)) (content.dropWhile (!isSpace ·)) true
  else
    .start (content.takeWhile (!isSpace ·)) (content.dropWhile (!isSpace ·)) false

/-- The end tag with a content between its brackets: white space may follow
the name, but does not stand for an empty one. -/
def ofStopTag (read : List Char) : Token :=
  if read.all isSpace then .stop read.reverse else .stop (read.dropWhile isSpace).reverse

/-- The text starts with a word, capitals or not. -/
def startsWithWord (word : String) (text : List Char) : Bool :=
  (text.take word.length).map Char.toUpper == word.toList

/-- One character in a mode: the tokens that are complete, and the next mode,
absent if the document is broken. -/
def step (mode : Mode) (char : Char) : List Token × Option Mode :=
  match mode with
  | .text read =>
      if char == '<' then (ofText read, some .opened) else ([], some (.text (char :: read)))
  | .opened =>
      if char == '!' then
        ([], some .declared)
      else if char == '/' then
        ([], some (.stopTag []))
      else if char == '?' then
        ([], some (.instruction []))
      else if char == '>' then
        ([ofStartTag []], some (.text []))
      else
        let quote := if char == '"' || char == '\'' then some char else none
        ([], some (.startTag [char] quote))
  | .startTag read (some quote) =>
      ([], some (.startTag (char :: read) (if char == quote then none else some quote)))
  | .startTag read none =>
      if char == '>' then
        ([ofStartTag read.reverse], some (.text []))
      else
        let quote := if char == '"' || char == '\'' then some char else none
        ([], some (.startTag (char :: read) quote))
  | .stopTag read =>
      if char == '>' then
        ([ofStopTag read], some (.text []))
      else
        ([], some (.stopTag (char :: read)))
  | .instruction read =>
      if char == '>' && read.isEmpty then
        ([], none)
      else if char == '>' && read.head? == some '?' then
        ([], some (.text []))
      else
        ([], some (.instruction (char :: read)))
  | .declared =>
      if char == '-' then
        ([], some (.comment [char]))
      else if char == '[' then
        ([], some (.data [char]))
      else if char == 'D' || char == 'd' then
        ([], some (.documentType [char] 0))
      else
        ([], none)
  | .comment read =>
      if char == '>' && ['-', '-'].isPrefixOf read && 4 ≤ read.length then
        if ['-', '-'].isPrefixOf read.reverse then ([], some (.text [])) else ([], none)
      else
        ([], some (.comment (char :: read)))
  | .data read =>
      if char == '>' && [']', ']'].isPrefixOf read then
        if "[CDATA[".toList.isPrefixOf read.reverse then
          ([.data ((read.drop 2).reverse.drop 7)], some (.text []))
        else
          ([], none)
      else
        ([], some (.data (char :: read)))
  | .documentType read depth =>
      if char == '<' then
        ([], some (.documentType (char :: read) (depth + 1)))
      else if char == '>' then
        match depth with
        | depth + 1 => ([], some (.documentType (char :: read) depth))
        | 0 =>
            let content := read.reverse
            if startsWithWord "DOCTYPE" content && (content.drop 7).any (!isSpace ·) then
              ([.documentType], some (.text []))
            else
              ([], none)
      else
        ([], some (.documentType (char :: read) depth))

/-- The tokens from a mode on. -/
def readFrom : Mode → List Char → List Token
  | .text read, [] => ofText read
  | _, [] => [.broken]
  | mode, char :: rest =>
      match step mode char with
      | (complete, some next) => complete ++ readFrom next rest
      | (complete, none) => complete ++ [.broken]

/-- The tokens of a document, without a byte order mark at its start. -/
def read (document : List Char) : List Token :=
  match document with
  | '\uFEFF' :: rest => readFrom (.text []) rest
  | document => readFrom (.text []) document

end Token
end Xml
end JspCompletion
