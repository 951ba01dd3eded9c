import JspCompletion.Descriptor.Suggest
import JspCompletion.FileTree
import JspCompletion.Include.Location
import JspCompletion.Markup.Declaration
import JspCompletion.Registry.Query

/-!
# The libraries a page declares

A page sees the libraries that it declares itself, and those that the taglib
directives of included files declare, at any depth.  A file that is already on
the way from the page to an include is not entered again.

Scans of included files are kept.  A young scan is used as it is; an older one
is used only if its file was not written since.  The includes of a file are
followed again in either case.
-/

namespace JspCompletion
namespace Include

/-- A kept scan of a file. -/
structure CachedScan where
  /-- When the file was scanned. -/
  time : Time
  /-- What was found. -/
  scan : Markup.FileScan
deriving DecidableEq, Repr

/-- What is known about included files. -/
structure Resolver where
  /-- The age in milliseconds above which a kept scan is checked. -/
  recheckAfter : Nat := 400
  /-- The kept scans. -/
  cache : List (Path × CachedScan) := []
  /-- The paths that were read so far, the latest first. -/
  reads : List Path := []
deriving DecidableEq, Repr

namespace Resolver

/-- The kept scan of a path. -/
def cached? (resolver : Resolver) (path : Path) : Option CachedScan :=
  (resolver.cache.find? (·.1 == path)).map (·.2)

/-- Keep a scan, replacing the one of the same path. -/
def keep (resolver : Resolver) (path : Path) (scan : CachedScan) : Resolver :=
  { resolver with cache := resolver.cache.filter (·.1 != path) ++ [(path, scan)] }

/-- Forget all kept scans. -/
def clear (resolver : Resolver) : Resolver :=
  { resolver with cache := [] }

/-- How often a path was read. -/
def readCount (resolver : Resolver) (path : Path) : Nat :=
  resolver.reads.count path

/-- A kept scan has to be checked against its file. -/
def needsRecheck (resolver : Resolver) (scan : CachedScan) (now : Time) : Bool :=
  resolver.recheckAfter < elapsed scan.time now

/-- Read and scan a file. -/
def readScan
    (resolver : Resolver)
    (files : FileTree)
    (now : Time)
    (path : Path) : Option Markup.FileScan × Resolver :=
  let resolver := { resolver with reads := path :: resolver.reads }
  match files.read? path with
  | none => (none, resolver)
  | some text =>
      let scan := Markup.scan text.toList
      (some scan, resolver.keep path { time := now, scan })

/-- The scan of a file, kept or fresh, or nothing if the file is gone. -/
def visit
    (resolver : Resolver)
    (files : FileTree)
    (now : Time)
    (path : Path) : Option Markup.FileScan × Resolver :=
  match resolver.cached? path with
  | none => resolver.readScan files now path
  | some kept =>
      if resolver.needsRecheck kept now then
        match files.modified? path with
        | none => (none, resolver)
        | some modified =>
            if modified ≤ kept.time then
              (some kept.scan, resolver)
            else
              resolver.readScan files now path
      else
        (some kept.scan, resolver)

/-- The paths whose scan can be had: those with a kept scan, and the files. -/
def available (resolver : Resolver) (files : FileTree) : List Path :=
  (resolver.cache.map (·.1) ++ files.paths).eraseDups

end Resolver

/-- A file that was entered, with the scan that was used for it. -/
structure Included where
  /-- The path of the file. -/
  path : Path
  /-- The scan. -/
  scan : Markup.FileScan
deriving DecidableEq, Repr

/-- The files that the includes of a file lead to, in order: each included
file, then those that its own includes lead to.  The files from the page to
the including file are the trace, and `remaining` holds the paths that can
still be entered. -/
def crawl
    (files : FileTree)
    (now : Time)
    (trace remaining : List Path)
    (file : Path)
    (includes : List String)
    (resolver : Resolver) : List Included × Resolver :=
  match includes with
  | [] => ([], resolver)
  | text :: rest =>
      let (found, resolver) :=
        match target? file text with
        | none => ([], resolver)
        | some path =>
            if path ∈ trace then
              ([], resolver)
            else
              let (scan, resolver) := resolver.visit files now path
              match scan with
              | none => ([], resolver)
              | some scan =>
                  if _member : path ∈ remaining then
                    let (inner, resolver) :=
                      crawl files now (path :: trace) (remaining.erase path) path scan.includes
                        resolver
                    ({ path := path, scan := scan } :: inner, resolver)
                  else
                    ([], resolver)
      let (later, resolver) := crawl files now trace remaining file rest resolver
      (found ++ later, resolver)
termination_by (remaining.length, includes.length)
decreasing_by
  · have smaller := List.length_erase_of_mem _member
    have positive := List.length_pos_of_mem _member
    exact Prod.Lex.left _ _ (by omega)
  · exact Prod.Lex.right _ (by simp)

/-- The files that the includes of a text lead to, in order.  Includes are
followed only where the text has a path. -/
def includedFiles
    (files : FileTree)
    (now : Time)
    (includes : List String)
    (file : Option Path)
    (resolver : Resolver) : List Included × Resolver :=
  match file with
  | some path => crawl files now [path] (resolver.available files) path includes resolver
  | none => ([], resolver)

/-- The declarations visible to a text, weakest first: its XML namespaces, its
directives, and the directives of its includes. -/
def declarations
    (files : FileTree)
    (now : Time)
    (text : List Char)
    (file : Option Path)
    (resolver : Resolver) : List Markup.Declaration × Resolver :=
  let scan := Markup.scan text
  let (included, resolver) := includedFiles files now scan.includes file resolver
  (scan.namespaces ++ scan.directives ++ included.flatMap (·.scan.directives), resolver)

/-- The namespace that the last declaration of a uri binds it to. -/
def boundTo? (declarations : List Markup.Declaration) (uri : String) : Option String :=
  (declarations.reverse.find? (·.uri == uri)).map (·.boundTo)

/-- The registered libraries that a text declares, in the order of the
registry. -/
def declaredLibraries
    (files : FileTree)
    (now : Time)
    (text : List Char)
    (file : Option Path)
    (resolver : Resolver)
    (registry : Registry) : List DeclaredLibrary × Resolver × Registry :=
  let (declarations, resolver) := declarations files now text file resolver
  if declarations.isEmpty then
    ([], resolver, registry)
  else
    let query : Query :=
      { kind := some .library
        rules := [{ property := "uri", values := declarations.map (·.uri) }] }
    let (found, registry) := registry.query now query
    let declared := found.filterMap fun (_, element) =>
      match element with
      | .library library =>
          (boundTo? declarations library.uri).map fun space => { boundTo := space, library }
      | _ => none
    (declared, resolver, registry)

end Include
end JspCompletion
