/-!
# Snippets

A snippet is text with numbered tab stops: `$1` is an empty stop, `$\x7b2:int\x7d` a
stop with a placeholder, and `$0` the place where the cursor ends.  In between,
a backslash takes the special meaning away from `$`, `\x7d` and the backslash.
-/

namespace JspCompletion
namespace Snippet

/-- The character has a meaning of its own inside a snippet. -/
def isSpecial (char : Char) : Bool :=
  char == '\\' || char == '$' || char == '\x7d'

/-- Text that stands for itself inside a snippet. -/
def escapeChars (text : List Char) : List Char :=
  text.flatMap fun char => if isSpecial char then ['\\', char] else [char]

/-- Text that stands for itself inside a snippet. -/
def escape (text : String) : String :=
  String.ofList (escapeChars text.toList)

/-- A tab stop, with a placeholder unless it is empty. -/
def stop (index : Nat) (placeholder : String) : String :=
  if placeholder = "" then
    "$" ++ toString index
  else
    "$\x7b" ++ toString index ++ ":" ++ escape placeholder ++ "\x7d"

/-- A snippet between the literal delimiters of an expression. -/
def inExpression (inner : String) : String :=
  "\\$\x7b" ++ inner ++ "\\\x7d"

end Snippet
end JspCompletion
