/-!
# White space

A character is blank when it has the Unicode property `White_Space`.  Names,
types and descriptions are trimmed of blank characters wherever the library
stores them.
-/

namespace JspCompletion
namespace Text

/-- The character has the Unicode property `White_Space`. -/
def isBlank (char : Char) : Bool :=
  let code := char.toNat
  (9 ≤ code && code ≤ 13) || code == 0x20 || code == 0x85 || code == 0xA0 ||
    code == 0x1680 || (0x2000 ≤ code && code ≤ 0x200A) || code == 0x2028 ||
    code == 0x2029 || code == 0x202F || code == 0x205F || code == 0x3000

/-- The ASCII white space of markup: space, tab, line feed, form feed and
carriage return. -/
def isMarkupSpace (char : Char) : Bool :=
  char == ' ' || char == '\t' || char == '\n' || char == '\x0c' || char == '\r'

/-- Drop the blank characters in front. -/
def trimStart (text : List Char) : List Char :=
  text.dropWhile isBlank

/-- Drop the blank characters at the end. -/
def trimEnd (text : List Char) : List Char :=
  (text.reverse.dropWhile isBlank).reverse

/-- Drop the blank characters on both sides. -/
def trim (text : List Char) : List Char :=
  trimEnd (trimStart text)

/-- A string without its surrounding blank characters. -/
def trimmed (text : String) : String :=
  String.ofList (trim text.toList)

/-- A string without the blank characters at its end. -/
def trimmedEnd (text : String) : String :=
  String.ofList (trimEnd text.toList)

/-- The string holds blank characters only. -/
def allBlank (text : String) : Bool :=
  text.toList.all isBlank

end Text
end JspCompletion
