/-
# Documents with references

A document may hold references to other parts of itself. Once they are resolved, the document is
read as if every reference were the part that it leads to, so parts may be shared and may even
contain themselves. A place in such a document is a path in its text, or a single character of a
text that a reference picked out.
-/

import CatalogClient.Json.Basic

namespace CatalogClient

/-- A place in a document. -/
inductive Place
  | node (path : Path)
  | letter (c : Char)
  deriving DecidableEq, Repr

/-- A document together with the places that its references lead to. Where other documents are kept
beside it, it starts below the root. -/
structure Document where
  root : Json
  start : Path := []
  links : List (Path × Place) := []

/-- What stands at a place, with the places of its direct parts. -/
inductive View
  | null
  | bool (value : Bool)
  | number (value : Number)
  | string (value : String)
  | array (items : List Place)
  | object (members : List (String × Place))

namespace Document

/-- A document in which no reference is followed. -/
def plain (root : Json) : Document :=
  { root }

/-- The place that is meant by a path: where its reference leads, or else the path itself. -/
def follow (document : Document) (path : Path) : Place :=
  (document.links.lookup path).getD (.node path)

/-- The place of the whole document. -/
def top (document : Document) : Place :=
  document.follow document.start

/-- The view of a value at a path. -/
def viewOf (document : Document) (path : Path) : Json → View
  | .null => .null
  | .bool value => .bool value
  | .number value => .number value
  | .string value => .string value
  | .array items =>
      .array ((List.range items.length).map fun position =>
        document.follow (path ++ [.index position]))
  | .object members =>
      .object (members.map fun member => (member.1, document.follow (path ++ [.key member.1])))

/-- The view at a place. -/
def view (document : Document) : Place → View
  | .letter c => .string (String.singleton c)
  | .node path =>
      match document.root.at? path with
      | some value => document.viewOf path value
      | none => .null

end Document

end CatalogClient
