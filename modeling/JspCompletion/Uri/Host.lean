import JspCompletion.Text.Utf8
import JspCompletion.Uri.Address
import JspCompletion.Uri.Percent
import JspCompletion.Uri.Punycode
import JspCompletion.Uri.Spelling

/-!
# Hosts

A host is a name or a numeric address.  For the schemes of the web and for
files the name is a domain, which has one spelling only and is written in
ASCII.  For other schemes it is any text.
-/

namespace JspCompletion

/-- A host. -/
inductive UriHost
  /-- A name.  The empty name is no host. -/
  | name (text : String)
  /-- An address of four numbers. -/
  | quad (address : Nat)
  /-- An address of eight numbers. -/
  | pieces (numbers : List Nat)
deriving DecidableEq, Repr

namespace UriHost

/-- The host as written. -/
def render : UriHost → String
  | name text => text
  | quad address => Uri.Quad.render address
  | pieces numbers => "[" ++ Uri.Pieces.render numbers ++ "]"

/-- The host is this machine. -/
def isLocal : UriHost → Bool
  | name text => text == "" || text == "localhost"
  | _ => false

/-- The domain of a name: its spelling, label by label in ASCII. -/
def domainOf (text : List Char) : List Char :=
  ['.'].intercalate (((Uri.spell text).splitOn '.').map Uri.asciiLabel)

/-- The address between brackets. -/
def bracketed? (text : List Char) : Option UriHost :=
  if text.getLast? = some ']' then
    (Uri.Pieces.ofText? text.dropLast).map pieces
  else
    none

/-- The host of the web, or of files, that a text writes.  A domain that ends in
a number has to be an address. -/
def ofDomain? (text : List Char) : Option UriHost :=
  match text with
  | '[' :: rest => bracketed? rest
  | text => do
      let decoded ← Text.ofUtf8? (Uri.Percent.decode text)
      let domain := domainOf decoded.toList
      guard !domain.isEmpty
      if Uri.Quad.isMeant domain then
        (Uri.Quad.ofDomain? domain).map quad
      else
        some (name (String.ofList domain))

/-- The host of any other scheme that a text writes. -/
def ofName? (text : List Char) : Option UriHost :=
  match text with
  | '[' :: rest => bracketed? rest
  | text => some (name (String.ofList (Uri.Percent.encode Uri.Percent.isAlwaysEncoded text)))

end UriHost
end JspCompletion
