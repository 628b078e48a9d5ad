/-
# Ordered tables

A table is a list of keys with their values in the order in which the keys were first put in. A
later value for a key takes the place of the earlier one.
-/

namespace CatalogClient

/-- Values under text keys, in order. -/
abbrev Keyed (α : Type) := List (String × α)

namespace Keyed

variable {α : Type}

/-- The table with a value under a key: in the place of the earlier value, or else at the end. -/
def put (table : Keyed α) (key : String) (value : α) : Keyed α :=
  match table with
  | [] => [(key, value)]
  | entry :: rest => if entry.1 = key then (key, value) :: rest else entry :: put rest key value

/-- The table of a list of entries that may repeat keys. -/
def ofEntries (entries : List (String × α)) : Keyed α :=
  entries.foldl (fun table entry => put table entry.1 entry.2) []

/-- The keys in order. -/
def keys (table : Keyed α) : List String :=
  table.map Prod.fst

/-- The first value under a key. -/
def get? (table : Keyed α) (key : String) : Option α :=
  table.lookup key

end Keyed

end CatalogClient
