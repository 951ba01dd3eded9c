import JspCompletion.Text.Utf8

/-!
# Paths

A path is the list of its segments, so two spellings of the same segments are
one path.  Repeated and trailing slashes disappear when a path is read, and so
does a `.` anywhere but at the start of a relative path; a `..` stays.
-/

namespace JspCompletion

/-- One segment of a path. -/
inductive Segment
  /-- The leading slash of an absolute path. -/
  | root
  /-- The directory itself, `.`. -/
  | here
  /-- The directory above, `..`. -/
  | up
  /-- A name. -/
  | name (text : String)
  /-- A name whose bytes are no text. -/
  | raw (bytes : List UInt8)
deriving DecidableEq, Repr

/-- A path by its segments. -/
structure Path where
  /-- The segments, outermost first. -/
  segments : List Segment
deriving DecidableEq, Repr

namespace Segment

/-- The segment as written. -/
def render : Segment → String
  | root => "/"
  | here => "."
  | up => ".."
  | name text => text
  | raw bytes => String.ofList (Text.shownBytes bytes)

/-- The segment is a name, whether it is text or not. -/
def isName : Segment → Bool
  | name _ | raw _ => true
  | _ => false

/-- The number of bytes of the segment as written. -/
def size : Segment → Nat
  | raw bytes => bytes.length
  | segment => segment.render.utf8ByteSize

/-- The segment that a piece between slashes stands for.  An empty piece is a
`.`. -/
def ofText (piece : String) : Segment :=
  if piece = "" ∨ piece = "." then
    here
  else if piece = ".." then
    up
  else
    name piece

/-- The place of a segment in the order of paths: by the kind of segment, and
names by their characters. -/
def rank : Segment → Nat × String
  | root => (0, "")
  | here => (1, "")
  | up => (2, "")
  | segment => (3, segment.render)

/-- A segment stands before another in the order of paths. -/
def before (left right : Segment) : Bool :=
  left.rank.1 < right.rank.1 || (left.rank.1 == right.rank.1 && left.rank.2 < right.rank.2)

end Segment

namespace Path

/-- The segments that pieces stand for behind other segments: a `.` says
nothing. -/
def laterSegments (pieces : List Segment) : List Segment :=
  pieces.filter (· != .here)

/-- The pieces of a text between slashes, as segments. -/
def pieces (text : List Char) : List Segment :=
  (text.splitOn '/').map fun piece => Segment.ofText (String.ofList piece)

/-- The path that a text writes. -/
def ofText (text : String) : Path :=
  match text.toList with
  | '/' :: rest => ⟨.root :: laterSegments (pieces rest)⟩
  | characters =>
      if (characters.splitOn '/').head? = some ['.'] then
        ⟨.here :: laterSegments (pieces characters)⟩
      else
        ⟨laterSegments (pieces characters)⟩

/-- Segments as a text, with a slash between names. -/
def renderSegments : List Segment → String
  | [] => ""
  | [segment] => segment.render
  | .root :: rest => "/" ++ renderSegments rest
  | segment :: rest => segment.render ++ "/" ++ renderSegments rest

/-- The path as a text. -/
def render (path : Path) : String :=
  renderSegments path.segments

/-- The path is absolute. -/
def isAbsolute (path : Path) : Bool :=
  path.segments.head? == some .root

/-- The directory that holds a path: everything but the last segment, and
nothing above the root. -/
def directory (path : Path) : Path :=
  if path.segments = [.root] then ⟨[]⟩ else ⟨path.segments.dropLast⟩

/-- A path followed by the segments of a relative text. -/
def join (path : Path) (text : String) : Path :=
  ⟨path.segments ++ laterSegments (pieces text.toList)⟩

/-- One segment put on top of a stack of segments.  A `..` takes the last
segment away; where there is none but the root, it stays. -/
def push (stack : List Segment) (segment : Segment) : List Segment :=
  match segment with
  | .here => stack
  | .up =>
      match stack with
      | [] => [.up]
      | [.root] => [.root, .up]
      | stack => stack.dropLast
  | other => stack ++ [other]

/-- The path with its `.` and `..` segments worked off from left to right. -/
def normalize (path : Path) : Path :=
  ⟨path.segments.foldl push []⟩

/-- A list of segments stands before another: segment by segment, and a front
part before the whole. -/
def segmentsBefore : List Segment → List Segment → Bool
  | [], [] => false
  | [], _ :: _ => true
  | _ :: _, [] => false
  | left :: lefts, right :: rights =>
      left.before right || (left == right && segmentsBefore lefts rights)

/-- The order in which paths are listed. -/
def le (left right : Path) : Bool :=
  !segmentsBefore right.segments left.segments

end Path
end JspCompletion
