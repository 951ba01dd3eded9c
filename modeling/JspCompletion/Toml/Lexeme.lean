import JspCompletion.Text.Digit
import JspCompletion.Toml.Value

/-!
# The lexemes of TOML

White space, comments, strings and keys.  Every reader takes the text from its
place on and returns what it read with the rest, or nothing if the text is
not well formed there.
-/

namespace JspCompletion
namespace Toml

/-- White space inside a line. -/
def isSpace (char : Char) : Bool :=
  char == ' ' || char == '\t'

/-- The character may stand in comments and in strings of one line. -/
def isPrintable (char : Char) : Bool :=
  char == '\t' || (0x20 ≤ char.toNat && char.toNat != 0x7F)

/-- The text behind white space. -/
def skipSpace (text : List Char) : List Char :=
  text.dropWhile isSpace

/-- The text behind a line end, where there is one. -/
def newline? : List Char → Option (List Char)
  | '\n' :: rest => some rest
  | '\r' :: '\n' :: rest => some rest
  | _ => none

/-- The text behind a comment, where there is one; the line end stays. -/
def skipComment (text : List Char) : Option (List Char) :=
  match text with
  | '#' :: rest =>
      let tail := rest.dropWhile fun char => isPrintable char
      match tail with
      | [] => some []
      | tail => if (newline? tail).isSome then some tail else none
  | text => some text

/-- The text behind white space, comments and line ends; `size` bounds its
length. -/
def skipLines : (size : Nat) → List Char → Option (List Char)
  | 0, text => some text
  | size + 1, text => do
      let tail ← skipComment (skipSpace text)
      match newline? tail with
      | some rest => skipLines size rest
      | none => some tail

/-- The text behind the end of a line: white space, a comment, and a line end
or the end of the text. -/
def lineEnd? (text : List Char) : Option (List Char) := do
  let tail ← skipComment (skipSpace text)
  match tail with
  | [] => some []
  | tail => newline? tail

/-- The character that `count` hexadecimal digits name, and the rest. -/
def hexEscape? (count : Nat) (text : List Char) : Option (Char × List Char) := do
  let digits := text.take count
  guard (digits.length = count)
  let code ← Text.number? 16 digits
  if valid : code.isValidChar then
    some (Char.ofNatAux code valid, text.drop count)
  else
    none

/-- The character that an escape behind a backslash names, and the rest. -/
def escape? : List Char → Option (Char × List Char)
  | 'b' :: rest => some ('\x08', rest)
  | 't' :: rest => some ('\t', rest)
  | 'n' :: rest => some ('\n', rest)
  | 'f' :: rest => some ('\x0c', rest)
  | 'r' :: rest => some ('\r', rest)
  | 'e' :: rest => some ('\x1b', rest)
  | '"' :: rest => some ('"', rest)
  | '\\' :: rest => some ('\\', rest)
  | 'x' :: rest => hexEscape? 2 rest
  | 'u' :: rest => hexEscape? 4 rest
  | 'U' :: rest => hexEscape? 8 rest
  | _ => none

/-- The rest of a string in double quotes; `size` bounds its length. -/
def basicFrom : (size : Nat) → List Char → Option (List Char × List Char)
  | 0, _ => none
  | _ + 1, [] => none
  | size + 1, char :: rest =>
      if char == '"' then
        some ([], rest)
      else if char == '\\' then do
        let (meant, tail) ← escape? rest
        let (more, tail) ← basicFrom size tail
        some (meant :: more, tail)
      else if isPrintable char then do
        let (more, tail) ← basicFrom size rest
        some (char :: more, tail)
      else
        none

/-- The rest of a string in single quotes. -/
def literalFrom (text : List Char) : Option (List Char × List Char) :=
  let body := text.takeWhile fun char => char != '\'' && isPrintable char
  match text.drop body.length with
  | '\'' :: rest => some (body, rest)
  | _ => none

/-- The closing quotes of a string of several lines, and the rest.  Three end
the string, and up to two more belong to it. -/
def closing? (quote : Char) (text : List Char) : Option (List Char × List Char) :=
  let quotes := (text.takeWhile (· == quote)).length
  if 3 ≤ quotes then
    let kept := min (quotes - 3) 2
    some (List.replicate kept quote, text.drop (kept + 3))
  else
    none

/-- The text behind white space and line ends. -/
def skipBlankLines : List Char → List Char
  | '\r' :: '\n' :: rest => skipBlankLines rest
  | char :: rest =>
      if isSpace char || char == '\n' then skipBlankLines rest else char :: rest
  | [] => []

/-- The text behind a backslash at the end of a line: white space, a line end,
and all white space and line ends that follow. -/
def continued? (text : List Char) : Option (List Char) :=
  (newline? (skipSpace text)).map skipBlankLines

/-- The characters that may stand as they are at the start of a text inside a
string of several lines, and the rest: a line end, which is kept as it is
written, or one character. -/
def lineText? : List Char → Option (List Char × List Char)
  | '\n' :: rest => some (['\n'], rest)
  | '\r' :: '\n' :: rest => some (['\r', '\n'], rest)
  | char :: rest => if isPrintable char then some ([char], rest) else none
  | [] => none

/-- The rest of a string of several lines in double quotes. -/
def basicLinesFrom : (size : Nat) → List Char → Option (List Char × List Char)
  | 0, _ => none
  | _ + 1, [] => none
  | size + 1, char :: rest =>
      match closing? '"' (char :: rest) with
      | some (kept, tail) => some (kept, tail)
      | none =>
          if char == '\\' then
            match continued? rest with
            | some tail => basicLinesFrom size tail
            | none => do
                let (meant, tail) ← escape? rest
                let (more, tail) ← basicLinesFrom size tail
                some (meant :: more, tail)
          else do
            let (plain, tail) ← lineText? (char :: rest)
            let (more, tail) ← basicLinesFrom size tail
            some (plain ++ more, tail)

/-- The rest of a string of several lines in single quotes. -/
def literalLinesFrom : (size : Nat) → List Char → Option (List Char × List Char)
  | 0, _ => none
  | _ + 1, [] => none
  | size + 1, char :: rest =>
      match closing? '\'' (char :: rest) with
      | some (kept, tail) => some (kept, tail)
      | none => do
          let (plain, tail) ← lineText? (char :: rest)
          let (more, tail) ← literalLinesFrom size tail
          some (plain ++ more, tail)

/-- The text behind a line end at the start of a string of several lines. -/
def dropNewline (text : List Char) : List Char :=
  (newline? text).getD text

/-- A string, and the rest. -/
def string? (text : List Char) : Option (List Char × List Char) :=
  match text with
  | '"' :: '"' :: '"' :: rest => basicLinesFrom (rest.length + 1) (dropNewline rest)
  | '\'' :: '\'' :: '\'' :: rest => literalLinesFrom (rest.length + 1) (dropNewline rest)
  | '"' :: rest => basicFrom (rest.length + 1) rest
  | '\'' :: rest => literalFrom rest
  | _ => none

/-- The character may be part of a key without quotes. -/
def isBareKeyChar (char : Char) : Bool :=
  char.isAlphanum || char == '_' || char == '-'

/-- One part of a key, and the rest. -/
def keyPart? (text : List Char) : Option (String × List Char) :=
  match text with
  | '"' :: rest => (basicFrom (rest.length + 1) rest).map fun (key, tail) =>
      (String.ofList key, tail)
  | '\'' :: rest => (literalFrom rest).map fun (key, tail) => (String.ofList key, tail)
  | text =>
      let key := text.takeWhile isBareKeyChar
      if key.isEmpty then none else some (String.ofList key, text.dropWhile isBareKeyChar)

/-- A key of parts joined by dots, and the rest behind white space. -/
def keyFrom : (size : Nat) → List Char → Option (List String × List Char)
  | 0, _ => none
  | size + 1, text => do
      let (first, tail) ← keyPart? (skipSpace text)
      match skipSpace tail with
      | '.' :: rest => do
          let (more, tail) ← keyFrom size rest
          some (first :: more, tail)
      | tail => some ([first], tail)

/-- How deep keys lead, and how deep arrays and tables may be nested. -/
def maximumDepth : Nat := 80

/-- A key, and the rest behind white space. -/
def key? (text : List Char) : Option (List String × List Char) := do
  let (key, tail) ← keyFrom (text.length + 1) text
  guard (key.length ≤ maximumDepth)
  some (key, tail)

end Toml
end JspCompletion
