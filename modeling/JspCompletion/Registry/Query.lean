import JspCompletion.Registry.Basic

/-!
# Queries

A query selects entries by kind and by rules on their properties.  Answering
it reads every candidate, so entries whose life has passed are refreshed on
the way; the candidates are those that are there when the query starts.
-/

namespace JspCompletion

/-- A rule on a property of a descriptor. -/
structure FilterRule where
  /-- The property. -/
  property : String
  /-- The values that fit. -/
  values : List String
  /-- Accept what does not fit instead. -/
  negated : Bool := false
deriving DecidableEq, Repr

/-- The descriptor passes the rule.  A property that it does not have fits no
value. -/
def FilterRule.accepts (rule : FilterRule) (element : Descriptor) : Bool :=
  let fits :=
    match element.property? rule.property with
    | some value => rule.values.contains value
    | none => false
  fits != rule.negated

/-- A selection of entries. -/
structure Query where
  /-- The kind, absent for all kinds. -/
  kind : Option Kind := none
  /-- The rules, all of which have to be passed. -/
  rules : List FilterRule := []
deriving DecidableEq, Repr

namespace Query

/-- The descriptor is selected. -/
def selects (query : Query) (element : Descriptor) : Bool :=
  query.kind.all (· == element.kind) && query.rules.all (·.accepts element)

end Query

namespace Registry

/-- The entries that a query looks at. -/
def candidates (registry : Registry) (query : Query) : List EntryId :=
  match query.kind with
  | some kind => registry.ofKind kind
  | none => registry.entries.map (·.1)

/-- Read the entries of a list one after the other, and collect those that are
selected. -/
def readAll
    (registry : Registry)
    (now : Time)
    (query : Query) : List EntryId → List (EntryId × Descriptor) × Registry
  | [] => ([], registry)
  | id :: rest =>
      let (element, registry) := registry.get now id
      let (found, registry) := registry.readAll now query rest
      match element with
      | some element =>
          if query.selects element then ((id, element) :: found, registry) else (found, registry)
      | none => (found, registry)

/-- The entries that a query selects. -/
def query
    (registry : Registry)
    (now : Time)
    (query : Query) : List (EntryId × Descriptor) × Registry :=
  registry.readAll now query (registry.candidates query)

/-- Add static descriptors that belong to one owner. -/
def addAll
    (registry : Registry)
    (now : Time)
    (owner : Option EntryId)
    (elements : List Descriptor) : Registry :=
  elements.foldl (fun registry element => (registry.add now element owner).2) registry

/-- Register a library with its functions and tags, which belong to it.  A
library with the same uri is removed first. -/
def importLibrary
    (registry : Registry)
    (now : Time)
    (library : TagLibrary) : EntryId × Registry :=
  let sameUri : Query :=
    { kind := some .library
      rules := [{ property := "uri", values := [library.uri] }] }
  let (found, registry) := registry.query now sameUri
  let registry := registry.removeAll (found.map (·.1))
  let (id, registry) := registry.add now (.library library)
  (id,
    registry.addAll now (some id)
      (library.functions.map Descriptor.function ++ library.tags.map Descriptor.tag))

end Registry
end JspCompletion
