import JspCompletion.Registry.Query
import JspCompletion.Tld.Source

/-!
# Loading libraries

Loading brings the registry in line with a list of descriptor files: each
library found is imported, and libraries of earlier loads that no file provides
any more are removed.  A file that cannot be used is reported and skipped.
-/

namespace JspCompletion
namespace Tld

/-- What loading did. -/
structure LoadReport where
  /-- The files that were imported, each with the uri of its library. -/
  loaded : List (String × String) := []
  /-- Why other files were not. -/
  failures : List Error := []
  /-- The uris of the libraries that are gone. -/
  removed : List String := []
deriving DecidableEq, Repr

/-- A file with its library, or why there is none. -/
abbrev ParsedFile := String × Except Error TagLibrary

/-- Import the library of one file. -/
def loadFile
    (now : Time)
    (state : LoadReport × Registry)
    (file : ParsedFile) : LoadReport × Registry :=
  let (report, registry) := state
  match file.2 with
  | .ok library =>
      ({ report with loaded := report.loaded ++ [(file.1, library.uri)] },
        (registry.importLibrary now library).2)
  | .error failure => ({ report with failures := report.failures ++ [failure] }, registry)

/-- Remove an entry of an earlier load that is still there. -/
def dropPrevious
    (state : LoadReport × Registry)
    (id : EntryId) : LoadReport × Registry :=
  let (report, registry) := state
  match registry.remove id with
  | .ok (.library library, registry) =>
      ({ report with removed := report.removed ++ [library.uri] }, registry)
  | .ok (_, registry) => (report, registry)
  | .error _ => state

/-- Bring the registry in line with the libraries of a list of files. -/
def load
    (registry : Registry)
    (now : Time)
    (files : List ParsedFile) : LoadReport × Registry :=
  let (previous, registry) := registry.query now { kind := some .library }
  let state := files.foldl (loadFile now) ({}, registry)
  (previous.map (·.1)).foldl dropPrevious state

end Tld
end JspCompletion
