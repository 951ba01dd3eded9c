import JspCompletion.PathName
import JspCompletion.Time

/-!
# File trees

A file tree holds files under their paths, each with its text and the time it
was last written, and the directories around them.  Its files are found under
the paths they were written to, or as on a disk, by walking from directory to
directory.
-/

namespace JspCompletion

/-- A file. -/
structure File where
  /-- The text, absent if the bytes are not UTF-8. -/
  content : Option String
  /-- When the file was written. -/
  modified : Time
deriving DecidableEq, Repr

/-- Why a file cannot be read. -/
inductive ReadError
  /-- Nothing has this path. -/
  | notFound
  /-- What has this path is not a text file, or a file stands in the way. -/
  | unreadable
deriving DecidableEq, Repr

/-- How files are found. -/
inductive Access
  /-- By the path they were written to. -/
  | exact
  /-- By walking from the root through directories. -/
  | walking
deriving DecidableEq, Repr

/-- Files and directories by path. -/
structure FileTree where
  /-- How files are found. -/
  access : Access := .exact
  /-- The files. -/
  files : List (Path × File) := []
  /-- The directories. -/
  directories : List Path := []
deriving DecidableEq, Repr

namespace FileTree

/-- The file that was written to a path. -/
def file? (tree : FileTree) (path : Path) : Option File :=
  (tree.files.find? (·.1 == path)).map (·.2)

/-- Something was made at this path. -/
def contains (tree : FileTree) (path : Path) : Bool :=
  (tree.file? path).isSome || tree.directories.contains path

/-! ## Walking -/

/-- The greatest number of bytes in a name. -/
def maximumNameSize : Nat := 255

/-- Follow segments from a directory.  Each name has to be there, and whatever
stands in front of a further segment has to be a directory.  The root lies in
no directory. -/
def followFrom
    (tree : FileTree) :
    (place : List Segment) → List Segment → Except ReadError (List Segment)
  | place, [] => .ok place
  | place, segment :: rest =>
      if (tree.file? ⟨place⟩).isSome || maximumNameSize < segment.size then
        .error .unreadable
      else
        match segment with
        | .up => tree.followFrom (if place.length ≤ 1 then place else place.dropLast) rest
        | .name name =>
            if tree.contains ⟨place ++ [.name name]⟩ then
              tree.followFrom (place ++ [.name name]) rest
            else
              .error .notFound
        | .raw _ | .root => .error .notFound
        | .here => tree.followFrom place rest

/-- The place that a path leads to.  Only absolute paths lead anywhere. -/
def follow (tree : FileTree) (path : Path) : Except ReadError Path :=
  if path.isAbsolute then
    (tree.followFrom [.root] path.segments.tail).map (⟨·⟩)
  else
    .error .notFound

/-- The place that a name leads to. -/
def locate (tree : FileTree) (name : PathName) : Except ReadError Path :=
  if name.isRefused then
    .error .unreadable
  else
    match name.steps? with
    | some steps => (tree.followFrom [.root] steps).map (⟨·⟩)
    | none => .error .notFound

/-- The text of the file with a name. -/
def readNamed (tree : FileTree) (name : PathName) : Except ReadError String := do
  match (tree.file? (← tree.locate name)).bind (·.content) with
  | some text => .ok text
  | none => .error .unreadable

/-! ## Looking up -/

/-- The file that a path leads to. -/
def find? (tree : FileTree) (path : Path) : Option File :=
  match tree.access with
  | .exact => tree.file? path
  | .walking =>
      match tree.follow path with
      | .ok place => tree.file? place
      | .error _ => none

/-- The text of the file that a path leads to. -/
def read? (tree : FileTree) (path : Path) : Option String :=
  (tree.find? path).bind (·.content)

/-- When the file that a path leads to was written. -/
def modified? (tree : FileTree) (path : Path) : Option Time :=
  (tree.find? path).map (·.modified)

/-- A second spelling of an absolute path: nothing lies above the root but the
root itself. -/
def throughTop (path : Path) : Path :=
  ⟨.root :: .up :: path.segments.tail⟩

/-- The normal paths that lead to files. -/
def paths (tree : FileTree) : List Path :=
  let written := tree.files.map (·.1)
  match tree.access with
  | .exact => written
  | .walking => written ++ written.map throughTop

/-! ## Changing -/

/-- The directories above a path, outermost first. -/
def ancestors (path : Path) : List Path :=
  (List.range path.segments.length).tail.map fun count => ⟨path.segments.take count⟩

/-- Add directories that are not there yet. -/
def addDirectories (tree : FileTree) (directories : List Path) : FileTree :=
  { tree with
    directories :=
      directories.foldl (fun known path => if path ∈ known then known else known ++ [path])
        tree.directories }

/-- Write a file, replacing the one at the same path. -/
def write (tree : FileTree) (path : Path) (file : File) : FileTree :=
  let tree := tree.addDirectories (ancestors path)
  { tree with files := tree.files.filter (·.1 != path) ++ [(path, file)] }

/-- Make a directory. -/
def makeDirectory (tree : FileTree) (path : Path) : FileTree :=
  tree.addDirectories (ancestors path ++ [path])

/-- Delete the file at a path. -/
def remove (tree : FileTree) (path : Path) : FileTree :=
  { tree with files := tree.files.filter (·.1 != path) }

/-- A path lies at or below another. -/
def isBelow (path directory : Path) : Bool :=
  directory.segments.isPrefixOf path.segments

/-- Delete a file, or a directory with everything in it. -/
def removeAll (tree : FileTree) (path : Path) : FileTree :=
  { tree with
    files := tree.files.filter fun item => !isBelow item.1 path
    directories := tree.directories.filter fun item => !isBelow item path }

end FileTree
end JspCompletion
