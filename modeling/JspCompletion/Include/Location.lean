import JspCompletion.Path

/-!
# Where an include leads

An include that starts with a slash or a backslash is taken from the root of
the web application, any other from the directory of the file that holds it.
The root is the directory below the first `src/main`, or else the first
directory called `webapp`.
-/

namespace JspCompletion
namespace Include

/-- Why an include leads nowhere. -/
inductive LocationError
  /-- No web application root lies above the including file. -/
  | noRoot (file : String)
deriving DecidableEq, Repr

/-- The error as shown to the user. -/
def LocationError.message : LocationError → String
  | noRoot file => "no web application root above " ++ file

/-- The number of segments through the name below the first `src/main`. -/
def sourceRoot? : List Segment → Option Nat
  | [] => none
  | segment :: rest =>
      match segment, rest with
      | .name "src", .name "main" :: below :: _ =>
          if below.isName then some 3 else (sourceRoot? rest).map (· + 1)
      | _, _ => (sourceRoot? rest).map (· + 1)

/-- The number of segments through the first `webapp`. -/
def webappRoot? : List Segment → Option Nat
  | [] => none
  | segment :: rest =>
      if segment = .name "webapp" then some 1 else (webappRoot? rest).map (· + 1)

/-- The web application root of a directory. -/
def root? (directory : Path) : Option Path :=
  ((sourceRoot? directory.segments).or (webappRoot? directory.segments)).map fun count =>
    ⟨directory.segments.take count⟩

/-- The character makes an include start from the root. -/
def isRootMark (char : Char) : Bool :=
  char == '/' || char == '\\'

/-- The path that an include in a file leads to. -/
def target? (file : Path) (target : String) : Option Path :=
  if target.toList.head?.any isRootMark then
    (root? file.directory).map fun root =>
      (root.join (String.ofList (target.toList.dropWhile isRootMark))).normalize
  else
    some (file.directory.join target).normalize

/-- The path that an include in a file leads to, or why there is none. -/
def locate (file target : String) : Except LocationError Path :=
  match target? (Path.ofText file) target with
  | some path => .ok path
  | none => .error (.noRoot file)

end Include
end JspCompletion
