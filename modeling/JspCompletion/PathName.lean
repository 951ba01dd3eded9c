import JspCompletion.Path

/-!
# The names of paths

On a disk a path is given by its name, a sequence of bytes that need not be
text.  The name of a path says more than the path: a slash at its end, or a `.`
behind a slash, asks for a directory.
-/

namespace JspCompletion

/-- The name of a path. -/
structure PathName where
  /-- The bytes. -/
  bytes : List UInt8
deriving DecidableEq, Repr

namespace PathName

/-- The name that a text gives. -/
def ofText (text : String) : PathName :=
  ⟨Text.utf8 text.toList⟩

/-- The name as shown to people. -/
def shown (name : PathName) : String :=
  String.ofList (Text.shownBytes name.bytes)

/-- The byte between segments. -/
def slash : UInt8 := 0x2F

/-- The segment that a piece between slashes stands for. -/
def segmentOf (piece : List UInt8) : Segment :=
  match Text.ofUtf8? piece with
  | some text => Segment.ofText text
  | none => .raw piece

/-- The pieces between slashes, as segments. -/
def pieces (bytes : List UInt8) : List Segment :=
  (bytes.splitOn slash).map segmentOf

/-- The steps that an absolute name takes from the root. -/
def steps? (name : PathName) : Option (List Segment) :=
  match name.bytes with
  | [] => none
  | first :: rest => if first = slash then some (pieces rest) else none

/-- The path with this name. -/
def path (name : PathName) : Path :=
  match name.steps? with
  | some steps => ⟨.root :: Path.laterSegments steps⟩
  | none =>
      let isHere := (name.bytes.splitOn slash).head? == some (Text.utf8 ['.'])
      let later := Path.laterSegments (pieces name.bytes)
      ⟨if isHere then .here :: later else later⟩

/-- A text behind the name of a directory. -/
def join (name : PathName) (text : String) : PathName :=
  let tail := Text.utf8 text.toList
  if name.bytes.isEmpty || name.bytes.getLast? == some slash then
    ⟨name.bytes ++ tail⟩
  else
    ⟨name.bytes ++ slash :: tail⟩

/-- The number of bytes from which on no path is found by its name. -/
def sizeLimit : Nat := 4096

/-- A disk does not accept the name at all: it is too long, or holds a zero
byte. -/
def isRefused (name : PathName) : Bool :=
  sizeLimit ≤ name.bytes.length || name.bytes.contains 0

end PathName
end JspCompletion
