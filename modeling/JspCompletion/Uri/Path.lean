import JspCompletion.Uri.Percent

/-!
# The paths of uris

A path is settled segment by segment: a `.` says nothing, and a `..` takes the
segment before it away.  The paths of files know drives, such as `C:`, which
`..` does not take away, and have a single slash at their start.
-/

namespace JspCompletion

/-- The path of a uri. -/
inductive UriPath
  /-- A text without structure, as in `mailto:someone`. -/
  | whole (text : String)
  /-- A text of segments, each behind a slash. -/
  | segments (text : String)
deriving DecidableEq, Repr

namespace UriPath

/-! ## Characters -/

/-- The characters that are encoded in a fragment. -/
def isEncodedInFragment (char : Char) : Bool :=
  Uri.Percent.isAlwaysEncoded char || " \"<>".toList.contains char || char == Char.ofNat 0x60

/-- The characters that are encoded in a path with segments. -/
def isEncoded (char : Char) : Bool :=
  isEncodedInFragment char || char == '#' || char == '?' || char == Char.ofNat 0x7b ||
    char == Char.ofNat 0x7d

/-! ## Segments -/

/-- The segment stands for the directory itself. -/
def isDot (segment : List Char) : Bool :=
  segment.map Char.toLower ∈ [".".toList, "%2e".toList]

/-- The segment stands for the directory above. -/
def isDoubleDot (segment : List Char) : Bool :=
  segment.map Char.toLower ∈
    ["..".toList, ".%2e".toList, "%2e.".toList, "%2e%2e".toList]

/-- The segment names a drive, such as `C:` or in older spelling `C|`. -/
def isDrive : List Char → Bool
  | [letter, mark] => letter.isAlpha && (mark == ':' || mark == '|')
  | _ => false

/-- The segment names a drive in its usual spelling. -/
def isNormalDrive (segment : List Char) : Bool :=
  isDrive segment && segment.getLast? == some ':'

/-- The segment is a drive, or one with a backslash behind it. -/
def startsWithDrive (segment : List Char) : Bool :=
  isDrive (segment.take 2) && (segment[2]?).all (· == '\\')

/-- The text behind the last slash. -/
def lastSegment (path : List Char) : List Char :=
  (path.reverse.takeWhile (· != '/')).reverse

/-- The text up to the last slash. -/
def throughLastSlash (path : List Char) : List Char :=
  (path.reverse.dropWhile (· != '/')).reverse

/-- The slash at the end of a path can go: it is not the first one, and not
the one behind a drive. -/
def canLoseSlash (path : List Char) : Bool :=
  let front := path.dropLast
  path.getLast? == some '/' && front.contains '/' && !startsWithDrive (lastSegment front)

/-- The directory above.  Of a file, a drive has none. -/
def above (isFile : Bool) (path : List Char) : List Char :=
  let path := if canLoseSlash path then path.dropLast else path
  if isFile && isNormalDrive (lastSegment path) then path else throughLastSlash path

/-- The path with a slash at its end. -/
def closed (path : List Char) : List Char :=
  if path.getLast? == some '/' then path else path ++ ['/']

/-- The first segment of a file's path is a drive. -/
def entersDrive (isFile : Bool) (path segment : List Char) : Bool :=
  isFile && path.length == 1 && isDrive segment

/-- A path followed by a segment, and by a slash unless the segment is the
last. -/
def addSegment (isFile isLast : Bool) (path segment : List Char) : List Char :=
  if isDoubleDot segment then
    if isLast then above isFile path else closed (above isFile path)
  else if isDot segment then
    closed path
  else
    let written :=
      if entersDrive isFile path segment then segment.take 1 ++ [':'] else segment
    path ++ written ++ if isLast then [] else ['/']

/-- A path followed by segments.  The second result says that a drive was
entered. -/
def addSegments (isFile : Bool) : (path : List Char) → List (List Char) → List Char × Bool
  | path, [] => (path, false)
  | path, segment :: rest =>
      let entered := !isDot segment && !isDoubleDot segment && entersDrive isFile path segment
      let (path, later) :=
        addSegments isFile (addSegment isFile rest.isEmpty path segment) rest
      (path, entered || later)

/-- A path with a single slash at its start. -/
def withOneSlash (path : List Char) : List Char :=
  '/' :: path.dropWhile (· == '/')

/-- The path that a text behind `start` settles to, and whether a drive was
entered. -/
def settle (isFile : Bool) (start text : List Char) : List Char × Bool :=
  let segments := (text.splitOn '/').map (Uri.Percent.encode isEncoded)
  let (path, entered) := addSegments isFile start segments
  (if isFile then withOneSlash path else path, entered)

end UriPath
end JspCompletion
