/-
# Request addresses

The address of a request is a path with placeholders, followed by query components. In a template
literal every placeholder becomes an interpolated expression.
-/

import CatalogClient.Text.Placeholder

namespace CatalogClient

/-- The address of a request: its path, and the keys of its query with the placeholders for their
values. -/
structure Url where
  path : String
  query : List (String × String) := []
  deriving DecidableEq

namespace Url

/-- The names of the placeholders of the path, in order and with repetitions. -/
def placeholders (url : Url) : List String :=
  Text.placeholders url.path

/-- The address with one more query component. A component without a placeholder of its own, or with
an empty one, takes its key. -/
def add (url : Url) (key : String) (placeholder : Option String := none) : Url :=
  let name := placeholder.getD ""
  { url with query := url.query ++ [(key, if name = "" then key else name)] }

/-- One query component. -/
def component (key placeholder : String) : String :=
  key ++ "=\x7b" ++ placeholder ++ "\x7d"

/-- An address with one more component after it. The first component of an address that has no
question mark yet is set off by one. -/
def extend (text : String) (entry : String × String) : String :=
  text ++ (if text.toList.contains '?' then "&" else "?") ++ component entry.1 entry.2

/-- The text of an address. -/
def render (url : Url) : String :=
  url.query.foldl extend url.path

/-- The text of an address inside a template literal. -/
def interpolated (url : Url) : String :=
  Text.interpolate url.render

end Url

end CatalogClient
