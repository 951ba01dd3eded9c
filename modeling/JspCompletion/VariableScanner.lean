import JspCompletion.Markup.Binding
import JspCompletion.Registry.Query

/-!
# Variables of the active document

A scanner keeps the registry's document variables in line with the text of a
document: new names are added, names with a new type are replaced, and names
that are gone are removed.  Names bound by anyone else are left alone.
-/

namespace JspCompletion

/-- A variable that a scanner has registered. -/
structure OwnedVariable where
  /-- The name of the variable. -/
  name : String
  /-- Its type, if the markup gave one. -/
  typeName : Option String
  /-- The entry in the registry. -/
  id : EntryId
deriving DecidableEq, Repr

/-- The state of a scanner. -/
structure VariableScanner where
  /-- When the document was last scanned. -/
  lastScan : Option Time := none
  /-- The variables registered by this scanner. -/
  owned : List OwnedVariable := []
deriving DecidableEq, Repr

namespace VariableScanner

/-- Add a binding to the variables found so far.  The first binding of a name
fixes its place; a later bean changes its type. -/
def addBinding
    (found : List (String × Option String))
    (binding : Markup.Binding) : List (String × Option String) :=
  if found.any (·.1 == binding.name) then
    if binding.source = .bean then
      found.map fun item =>
        if item.1 == binding.name then (item.1, binding.typeName) else item
    else
      found
  else
    found ++ [(binding.name, binding.typeName)]

/-- The variables that a text declares with their types, in order of first
appearance. -/
def desired (text : List Char) : List (String × Option String) :=
  (Markup.bindings text).foldl addBinding []

/-- The names of variables that this scanner did not register. -/
def reserved
    (scanner : VariableScanner)
    (registered : List (EntryId × Descriptor)) : List String :=
  (registered.filter fun item => !scanner.owned.any (·.id == item.1)).map fun item =>
    item.2.name.text

/-- A registered variable is still there and still declared as it was. -/
def isCurrent
    (registry : Registry)
    (desired : List (String × Option String))
    (item : OwnedVariable) : Bool :=
  registry.contains item.id && desired.contains (item.name, item.typeName)

/-- Register a variable, unless its name is taken. -/
def addVariable
    (now : Time)
    (span : Nat)
    (reserved : List String)
    (state : VariableScanner × Registry)
    (wanted : String × Option String) : VariableScanner × Registry :=
  let (scanner, registry) := state
  if scanner.owned.any (·.name == wanted.1) || reserved.contains wanted.1 then
    state
  else
    match ExpressionVariable.make wanted.1 (wanted.2.getD "") "" with
    | .error _ => state
    | .ok item =>
        let (id, registry) :=
          registry.add now (.var item) none (some { span, plan := [] })
        ({ scanner with
            owned := scanner.owned ++ [{ name := wanted.1, typeName := wanted.2, id }] },
          registry)

/-- Bring the registry in line with a text.  The variables registered live for
`span` milliseconds before they are looked at again. -/
def sweep
    (scanner : VariableScanner)
    (now : Time)
    (text : List Char)
    (span : Nat)
    (registry : Registry) : VariableScanner × Registry :=
  let desired := desired text
  let (registered, registry) := registry.query now { kind := some .var }
  let reserved := scanner.reserved registered
  let stale := scanner.owned.filter fun item => !isCurrent registry desired item
  let current := scanner.owned.filter fun item => isCurrent registry desired item
  let registry := registry.removeAll (stale.map (·.id))
  desired.foldl (addVariable now span reserved) ({ scanner with owned := current }, registry)

/-- The last scan is less than an interval ago. -/
def isRecent (scanner : VariableScanner) (now : Time) (interval : Nat) : Bool :=
  match scanner.lastScan with
  | some last => elapsed last now < interval
  | none => false

/-- Scan the active document, unless the last scan is too recent. -/
def onRefresh
    (scanner : VariableScanner)
    (now : Time)
    (document : Option String)
    (interval : Nat)
    (registry : Registry) : VariableScanner × Registry :=
  if scanner.isRecent now interval then
    (scanner, registry)
  else
    { scanner with lastScan := some now }.sweep now ((document.getD "").toList) interval registry

end VariableScanner
end JspCompletion
