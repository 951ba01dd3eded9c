import JspCompletion.Toml.Scalar

/-!
# TOML documents

A document defines keys, directly and inside tables.  No key may be defined
twice, and a table cannot be reopened once it is closed.  What is defined is
kept as a flat list of places: a place is the way from the top, by key and, in
an array of tables, by number.
-/

namespace JspCompletion
namespace Toml

/-- One step on the way to a place. -/
inductive Step
  /-- Into a key. -/
  | key (name : String)
  /-- Into an element of an array of tables. -/
  | index (number : Nat)
deriving DecidableEq, Repr

/-- What is defined at a place. -/
inductive Item
  /-- A value, which cannot be extended. -/
  | value (value : Value)
  /-- A table.  It is `implied` if only places inside it were defined, and
  `dotted` if a key with dots did so. -/
  | table (implied dotted : Bool)
  /-- An array of tables, with the number of its elements. -/
  | tables (count : Nat)
deriving Repr

/-- A place. -/
abbrev Place := List Step

/-- The definitions so far. -/
abbrev Definitions := List (Place × Item)

namespace Definitions

/-- What is defined at a place. -/
def at? (definitions : Definitions) (place : Place) : Option Item :=
  (definitions.find? (·.1 == place)).map (·.2)

/-- Define a place, replacing what was there. -/
def set (definitions : Definitions) (place : Place) (item : Item) : Definitions :=
  definitions.filter (·.1 != place) ++ [(place, item)]

/-- Go from a table along keys, defining tables that are not there yet.  Keys
with dots do not enter tables that have a header of their own, and take over
those that were only implied. -/
def enter
    (dotted : Bool)
    (definitions : Definitions)
    (place : Place) : List String → Option (Definitions × Place)
  | [] => some (definitions, place)
  | key :: rest =>
      let place := place ++ [.key key]
      match definitions.at? place with
      | none => enter dotted (definitions.set place (.table true dotted)) place rest
      | some (.value _) => none
      | some (.tables count) => enter dotted definitions (place ++ [.index (count - 1)]) rest
      | some (.table implied _) =>
          if !dotted then
            enter dotted definitions place rest
          else if implied then
            enter dotted (definitions.set place (.table true true)) place rest
          else
            none

/-- The table at a place is one that keys with dots extend. -/
def isDotted (definitions : Definitions) (place : Place) : Bool :=
  match definitions.at? place with
  | some (.table _ dotted) => dotted
  | _ => false

/-- Define a key inside a table.  A key with dots defines a table of its own
or extends one without a header. -/
def define
    (definitions : Definitions)
    (table : Place)
    (key : List String)
    (value : Value) : Option Definitions := do
  let parents := key.dropLast
  let last ← key.getLast?
  let (definitions, parent) ← definitions.enter true table parents
  guard (isDotted definitions parent != parents.isEmpty)
  let place := parent ++ [.key last]
  guard (definitions.at? place).isNone
  some (definitions.set place (.value value))

/-- Open the table with a header. -/
def openTable (definitions : Definitions) (key : List String) :
    Option (Definitions × Place) := do
  let last ← key.getLast?
  let (definitions, parent) ← definitions.enter false [] key.dropLast
  let place := parent ++ [.key last]
  match definitions.at? place with
  | none | some (.table true false) => some (definitions.set place (.table false false), place)
  | some _ => none

/-- Open a further element of the array of tables with a header. -/
def openElement (definitions : Definitions) (key : List String) :
    Option (Definitions × Place) := do
  let last ← key.getLast?
  let (definitions, parent) ← definitions.enter false [] key.dropLast
  let place := parent ++ [.key last]
  let count ←
    match definitions.at? place with
    | none => some 0
    | some (.tables count) => some count
    | some _ => none
  let element := place ++ [.index count]
  some ((definitions.set place (.tables (count + 1))).set element (.table false false), element)

end Definitions

/-- The values of an array, and the rest.  Behind each value stands a comma or
the closing bracket. -/
def arrayFrom
    (value? : List Char → Option (Value × List Char)) :
    (size : Nat) → List Char → Option (List Value × List Char)
  | 0, _ => none
  | size + 1, text => do
      match ← skipLines text.length text with
      | ']' :: rest => some ([], rest)
      | tail => do
          let (value, tail) ← value? tail
          match ← skipLines tail.length tail with
          | ',' :: rest => do
              let (more, tail) ← arrayFrom value? size rest
              some (value :: more, tail)
          | ']' :: rest => some ([value], rest)
          | _ => none

/-- The text behind an inline table, whose entries define keys.  Its parts may
stand on lines of their own, a key with dots excepted. -/
def tableFrom
    (value? : List Char → Option (Value × List Char)) :
    (size : Nat) → Definitions → List Char → Option (List Char)
  | 0, _, _ => none
  | size + 1, definitions, text => do
      match ← skipLines text.length text with
      | '\x7d' :: rest => some rest
      | tail => do
          let (key, tail) ← key? tail
          let tail ← skipLines tail.length tail >>= mark? '='
          let (value, tail) ← skipLines tail.length tail >>= value?
          let definitions ← definitions.define [] key value
          match ← skipLines tail.length tail with
          | ',' :: rest => tableFrom value? size definitions rest
          | '\x7d' :: rest => some rest
          | _ => none

/-- A value, and the rest.  Arrays and tables may be nested `depth` deep. -/
def valueAt? : (depth : Nat) → List Char → Option (Value × List Char)
  | depth, text =>
      match text with
      | [] => none
      | '[' :: rest =>
          match depth with
          | 0 => none
          | depth + 1 =>
              (arrayFrom (valueAt? depth) (rest.length + 1) rest).map fun (items, tail) =>
                (.array items, tail)
      | '\x7b' :: rest =>
          match depth with
          | 0 => none
          | depth + 1 =>
              (tableFrom (valueAt? depth) (rest.length + 1) [] rest).map fun tail =>
                (.table, tail)
      | first :: _ =>
          if first == '"' || first == '\'' then
            (string? text).map fun (content, tail) => (.string (String.ofList content), tail)
          else
            scalar? text

/-- One line of a document, where keys are defined in the table at a place. -/
def statement?
    (definitions : Definitions)
    (table : Place)
    (text : List Char) : Option ((Definitions × Place) × List Char) :=
  match text with
  | '[' :: '[' :: rest => do
      let (key, tail) ← key? rest
      let tail ← mark? ']' tail >>= mark? ']'
      let opened ← definitions.openElement key
      some (opened, ← lineEnd? tail)
  | '[' :: rest => do
      let (key, tail) ← key? rest
      let tail ← mark? ']' tail
      let opened ← definitions.openTable key
      some (opened, ← lineEnd? tail)
  | text => do
      let (key, tail) ← key? text
      let tail ← mark? '=' tail
      let (value, tail) ← valueAt? maximumDepth (skipSpace tail)
      let definitions ← definitions.define table key value
      some ((definitions, table), ← lineEnd? tail)

/-- The definitions of the lines of a text; `size` bounds their number. -/
def documentFrom :
    (size : Nat) → Definitions → Place → List Char → Option Definitions
  | 0, _, _, _ => none
  | size + 1, definitions, table, text => do
      match ← skipLines text.length text with
      | [] => some definitions
      | text => do
          let ((definitions, table), rest) ← statement? definitions table text
          documentFrom size definitions table rest

/-- The definitions of a document, unless it is malformed. -/
def parse (document : String) : Option Definitions :=
  let text :=
    match document.toList with
    | '\uFEFF' :: rest => rest
    | text => text
  documentFrom (text.length + 1) [] [] text

end Toml
end JspCompletion
