import JspCompletion.FileTree
import JspCompletion.Tld.Library

/-!
# Finding tag library descriptors

Descriptors are the files with the extension `tld` below the configured
directories.  A directory that starts with `~` lies below the home directory.
-/

namespace JspCompletion
namespace Tld

/-- A directory with a leading `~` replaced by the home directory. -/
def expandHome (home directory : String) : String :=
  match directory.toList with
  | '~' :: rest =>
      let below := String.ofList (rest.dropWhile fun char => char == '/' || char == '\\')
      if home.toList.getLast? = some '/' then home ++ below else home ++ "/" ++ below
  | _ => directory

/-- The extension of a file name: what follows the last dot, unless only the
dot's front is empty. -/
def extension? (fileName : String) : Option String :=
  let reversed := fileName.toList.reverse
  match reversed.dropWhile (· != '.') with
  | [] => none
  | [_] => none
  | _ :: _ => some (String.ofList (reversed.takeWhile (· != '.')).reverse)

/-- The path names a descriptor file. -/
def isDescriptor (path : Path) : Bool :=
  match path.segments.getLast? with
  | some (.name fileName) =>
      match extension? fileName with
      | some extension => extension.toList.map Char.toLower == "tld".toList
      | none => false
  | _ => false

/-- A descriptor file. -/
structure SourceFile where
  /-- The path as shown, below the directory as configured. -/
  shown : String
  /-- The place in the file tree. -/
  place : Path
deriving DecidableEq, Repr

/-- A text behind a directory as configured. -/
def below (directory rest : String) : String :=
  if directory.toList.getLast? = some '/' then directory ++ rest else directory ++ "/" ++ rest

/-- The descriptor file at a place, as shown below a directory. -/
def SourceFile.below (directory : String) (relative : List Segment) (place : Path) : SourceFile :=
  { shown := Tld.below directory (Path.render ⟨relative⟩), place }

/-- The directory of a path below a configured directory can be listed, its
name not being too long. -/
def isListed (directory : String) (relative : List Segment) : Bool :=
  match relative.dropLast with
  | [] => true
  | parents => !(PathName.ofText (below directory (Path.render ⟨parents⟩))).isRefused

/-- The descriptor files below one directory, in the order of their paths.  The
directory may itself be a descriptor file. -/
def filesBelow (tree : FileTree) (directory : String) : List SourceFile :=
  match tree.locate (PathName.ofText directory) with
  | .error _ => []
  | .ok place =>
      if (tree.file? place).isSome then
        if isDescriptor place then [{ shown := directory, place }] else []
      else
        let relative (path : Path) : List Segment := path.segments.drop place.segments.length
        let paths := (tree.files.map (·.1)).filter fun path =>
          FileTree.isBelow path place && isDescriptor path && isListed directory (relative path)
        (paths.mergeSort Path.le).map fun path =>
          SourceFile.below directory (relative path) path

/-- The descriptor files below some directories, directory by directory. -/
def collect (tree : FileTree) (home : String) (directories : List String) : List SourceFile :=
  directories.flatMap fun directory => filesBelow tree (expandHome home directory)

/-- The library in a descriptor file, or why there is none. -/
def readFile (tree : FileTree) (file : SourceFile) : Except Error TagLibrary :=
  match tree.readNamed (PathName.ofText file.shown) with
  | .ok text => parse file.shown text
  | .error _ => .error (.unreadable file.shown)

end Tld
end JspCompletion
