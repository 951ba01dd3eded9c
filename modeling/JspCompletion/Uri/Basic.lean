import JspCompletion.PathName
import JspCompletion.Text.Parts
import JspCompletion.Uri.Host
import JspCompletion.Uri.Path

/-!
# Uris

Documents are known by their uris.  A uri is brought into normal form when it is
read, so that two spellings of one document are one uri: the scheme is in lower
case, the host has one spelling, `.` and `..` in a path are worked off, and
characters that may not stand in a part are percent encoded.  The uri of a file
gives the path of the file.
-/

namespace JspCompletion

/-- Who answers for a uri. -/
structure UriAuthority where
  /-- The user and the password, as written in front of the host. -/
  credentials : String := ""
  /-- The host. -/
  host : UriHost
  /-- The number of the socket, unless it is the usual one of the scheme. -/
  socket : Option Nat := none
deriving DecidableEq, Repr

/-- A uri in normal form. -/
structure Uri where
  /-- The scheme in lower case. -/
  scheme : String
  /-- What stands between `//` and the path. -/
  authority : Option UriAuthority
  /-- The path. -/
  path : UriPath
  /-- What follows the question mark. -/
  query : Option String
  /-- What follows the number sign. -/
  fragment : Option String
deriving DecidableEq, Repr

/-- The authority as written. -/
def UriAuthority.render (authority : UriAuthority) : String :=
  authority.credentials ++ authority.host.render ++
    ((authority.socket.map fun socket => ":" ++ toString socket).getD "")

namespace Uri

/-- The path as written.  Where no authority stands in front of it, it cannot
start with two slashes. -/
def renderPath (uri : Uri) : String :=
  match uri.path with
  | .whole text => text
  | .segments text =>
      if uri.authority.isNone && ['/', '/'].isPrefixOf text.toList then "/." ++ text else text

/-- The uri as written. -/
def render (uri : Uri) : String :=
  uri.scheme ++ ":" ++ ((uri.authority.map fun authority => "//" ++ authority.render).getD "") ++
    uri.renderPath ++ ((uri.query.map ("?" ++ ·)).getD "") ++
    ((uri.fragment.map ("#" ++ ·)).getD "")

/-! ## Characters -/

/-- The characters that are encoded in a query.  The quote is one of them for
special schemes. -/
def isEncodedInQuery (special : Bool) (char : Char) : Bool :=
  Percent.isAlwaysEncoded char || " \"#<>".toList.contains char || (special && char == '\'')

/-- The characters that are encoded in credentials. -/
def isEncodedInCredentials (char : Char) : Bool :=
  UriPath.isEncoded char || "/:;=@[\\]^|".toList.contains char

/-- Characters that are cut off at both ends of a uri. -/
def isMargin (char : Char) : Bool :=
  char.toNat ≤ 0x20

/-- Characters that are left out wherever they stand. -/
def isLineBreak (char : Char) : Bool :=
  char == '\t' || char == '\n' || char == '\r'

/-- The text without margins, tabs and line ends. -/
def strip (text : List Char) : List Char :=
  let behind := text.dropWhile isMargin
  (behind.reverse.dropWhile isMargin).reverse.filter fun char => !isLineBreak char

/-! ## Schemes -/

/-- A scheme and what follows its colon. -/
def splitScheme? (text : List Char) : Option (String × List Char) :=
  let isSchemeChar (char : Char) : Bool :=
    char.isAlphanum || char == '+' || char == '-' || char == '.'
  let scheme := text.takeWhile isSchemeChar
  match scheme, text.dropWhile isSchemeChar with
  | first :: _, ':' :: rest =>
      if first.isAlpha then some (String.ofList (scheme.map Char.toLower), rest) else none
  | _, _ => none

/-- The socket that a scheme of the web uses if none is given. -/
def usualSocket? : String → Option Nat
  | "http" | "ws" => some 80
  | "https" | "wss" => some 443
  | "ftp" => some 21
  | _ => none

/-- A scheme of the web, whose uris always have a host. -/
def isWeb (scheme : String) : Bool :=
  (usualSocket? scheme).isSome

/-- A scheme in which a host is a domain and a backslash is a slash. -/
def isSpecial (scheme : String) : Bool :=
  scheme == "file" || isWeb scheme

/-! ## Authorities -/

/-- User and password in front of a host.  A password that is empty is left out,
and so is everything if there is no user either. -/
def credentialsOf (text : List Char) : List Char :=
  let encode := Percent.encode isEncodedInCredentials
  let (user, password) := Text.splitAtFirst ':' text
  let password := password.getD []
  let written := encode user ++ if password.isEmpty then [] else ':' :: encode password
  if written.isEmpty then [] else written ++ ['@']

/-- The text of a host at the start of a text, and the rest.  Colons between
brackets belong to the host. -/
def hostText : (inBrackets : Bool) → List Char → List Char × List Char
  | _, [] => ([], [])
  | inBrackets, char :: rest =>
      if char == '/' || (char == ':' && !inBrackets) then
        ([], char :: rest)
      else
        let inBrackets := char == '[' || (inBrackets && char != ']')
        let (host, rest) := hostText inBrackets rest
        (char :: host, rest)

/-- The socket behind a host, if one is given, and the rest.  What follows the
number has to be a path. -/
def socket? (text : List Char) : Option (Option Nat × List Char) :=
  match text with
  | ':' :: rest =>
      let digits := rest.takeWhile Char.isDigit
      let rest := rest.dropWhile Char.isDigit
      let number := Text.number? 10 digits
      if rest.head?.all (fun char => char == '/' || char == '\\') && number.all (· < 65536) then
        some (number, rest)
      else
        none
  | text => some (none, text)

/-- The authority at the start of a text, and the rest.  Without a host there
is nothing else. -/
def authority? (scheme : String) (text : List Char) : Option (UriAuthority × List Char) := do
  let authority := text.takeWhile (· != '/')
  let (credentials, tail) := Text.splitAtLast '@' authority
  let (host, rest) := hostText false (tail ++ text.dropWhile (· != '/'))
  let host ← if isWeb scheme then UriHost.ofDomain? host else UriHost.ofName? host
  let credentials := String.ofList ((credentials.map credentialsOf).getD [])
  guard (host ≠ .name "" ∨ (credentials = "" ∧ rest.head? ≠ some ':'))
  let (socket, rest) ← socket? rest
  let socket := if socket = usualSocket? scheme then none else socket
  some ({ credentials, host, socket }, rest)

/-! ## Reading -/

/-- The authority and path of a file uri.  The name of this machine is left
out, and so is any host in front of a drive. -/
def fileParts (text : List Char) : Option (Option UriAuthority × UriPath) := do
  let (host, start, rest) ←
    match text with
    | '/' :: '/' :: rest =>
        let host := rest.takeWhile (· != '/')
        let tail := rest.dropWhile (· != '/')
        if UriPath.isDrive host then
          some (.name "", ['/'], rest)
        else if host.isEmpty then
          some (.name "", ['/'], tail)
        else do
          let host ← UriHost.ofDomain? host
          some (if host.isLocal then (.name "", ['/'], tail) else (host, ['/'], tail.drop 1))
    | '/' :: _ => some (UriHost.name "", [], text)
    | text => some (UriHost.name "", ['/'], text)
  let (path, enteredDrive) := UriPath.settle true start rest
  some (some { host := if enteredDrive then .name "" else host }, .segments (String.ofList path))

/-- The authority and path of a uri of the web. -/
def webParts (scheme : String) (text : List Char) : Option (Option UriAuthority × UriPath) := do
  let (authority, rest) ← authority? scheme (text.dropWhile (· == '/'))
  let path := (UriPath.settle false ['/'] (rest.drop 1)).1
  some (some authority, .segments (String.ofList path))

/-- The authority and path of any other uri. -/
def otherParts (scheme : String) (text : List Char) :
    Option (Option UriAuthority × UriPath) :=
  match text with
  | '/' :: '/' :: rest => do
      let (authority, rest) ← authority? scheme rest
      let start := if rest.head?.all (· == '/') then [] else ['/']
      some (some authority, .segments (String.ofList (UriPath.settle false start rest).1))
  | '/' :: rest =>
      some (none, .segments (String.ofList (UriPath.settle false ['/'] rest).1))
  | text => some (none, .whole (String.ofList (Percent.encode Percent.isAlwaysEncoded text)))

/-- The uri that a text writes, unless it is malformed. -/
def ofText? (text : String) : Option Uri := do
  let (scheme, rest) ← splitScheme? (strip text.toList)
  let (rest, fragment) := Text.splitAtFirst '#' rest
  let (rest, query) := Text.splitAtFirst '?' rest
  let special := isSpecial scheme
  let rest := if special then rest.map fun char => if char = '\\' then '/' else char else rest
  let (authority, path) ←
    if scheme = "file" then
      fileParts rest
    else if special then
      webParts scheme rest
    else
      otherParts scheme rest
  return {
    scheme
    authority
    path
    query := query.map (String.ofList ∘ Percent.encode (isEncodedInQuery special))
    fragment := fragment.map (String.ofList ∘ Percent.encode UriPath.isEncodedInFragment) }

/-! ## Files -/

/-- Bytes that end in a drive are followed by a slash. -/
def closeDrive (bytes : List UInt8) : List UInt8 :=
  match bytes.reverse with
  | mark :: letter :: _ :: _ =>
      if UriPath.isDrive [Char.ofNat letter.toNat, Char.ofNat mark.toNat] then
        bytes ++ [0x2F]
      else
        bytes
  | _ => bytes

/-- The path of the file that a uri names.  Only files of this machine have
one. -/
def filePath? (uri : Uri) : Option PathName :=
  match uri.path with
  | .segments text =>
      if text.toList.head? = some '/' ∧ uri.authority.all (·.host.isLocal) then
        some ⟨closeDrive (Percent.decode text.toList)⟩
      else
        none
  | .whole _ => none

end Uri
end JspCompletion
