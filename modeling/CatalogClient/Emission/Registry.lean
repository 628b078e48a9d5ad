/-
# Registered names

Every declared type of the client has a simple name of its own. A name is taken by the first type
that registers it, whose qualified name stays with it. One type without a name may be registered as
well.
-/

import CatalogClient.Keyed

namespace CatalogClient

/-- The names taken so far with the qualified names of their types, in order, and the registered
type without a name, which may have a qualified name all the same. -/
structure Registry where
  entries : Keyed String := []
  nameless : Option (Option String) := none
  deriving DecidableEq

namespace Registry

/-- The names in the order of their registration. -/
def taken (registry : Registry) : List String :=
  registry.entries.keys

/-- Whether a name is taken. -/
def contains (registry : Registry) (name : String) : Bool :=
  decide (name ∈ registry.taken)

/-- The qualified name of the type that has taken a name. -/
def originOf (registry : Registry) (name : String) : Option String :=
  registry.entries.get? name

/-- How many types are registered. -/
def size (registry : Registry) : Nat :=
  registry.entries.length + registry.nameless.toList.length

/-- The names in the order of their code points. -/
def names (registry : Registry) : List String :=
  registry.taken.mergeSort fun left right => decide (left ≤ right)

/-- The names of all registered types in order, the absent one included. An absent name has no place
among others. -/
def allNames? (registry : Registry) : Option (List (Option String)) :=
  if registry.nameless.isNone then some (registry.names.map some)
  else if registry.entries = [] then some [none]
  else none

/-- The registry with a type without a name, unless there is one already. -/
def registerNameless? (registry : Registry) (qualified : String) : Option Registry :=
  if registry.nameless.isSome then none
  else some { registry with nameless := some (if qualified = "" then none else some qualified) }

/-- The registry with one more name, unless it is taken. Without a qualified name the name is its
own origin. -/
def register? (registry : Registry) (name qualified : String) : Option Registry :=
  if name ∈ registry.taken then none
  else
    let entry := (name, if qualified = "" then name else qualified)
    some { registry with entries := registry.entries ++ [entry] }

theorem taken_of_register? {registry next : Registry} {name qualified : String}
    (h : registry.register? name qualified = some next) :
    name ∉ registry.taken ∧ next.taken = registry.taken ++ [name] := by
  unfold register? at h
  split at h
  · cases h
  · next fresh =>
      cases h
      exact ⟨fresh, by simp [taken, Keyed.keys]⟩

theorem register?_eq_none_iff (registry : Registry) (name qualified : String) :
    registry.register? name qualified = none ↔ name ∈ registry.taken := by
  unfold register?
  split <;> simp [*]

end Registry

end CatalogClient
