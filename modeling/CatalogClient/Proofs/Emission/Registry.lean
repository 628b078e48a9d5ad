/-
# The names of a registry in order

Whatever the order in which names are registered, they are listed in the order of their code points,
and names that are registered once are listed once.
-/

import CatalogClient.Emission.Registry
import Mathlib.Data.List.Nodup
import Mathlib.Data.List.Perm.Basic

namespace CatalogClient

namespace Registry

variable {registry other : Registry}

theorem perm_names (registry : Registry) : registry.names.Perm registry.taken :=
  List.mergeSort_perm _ _

theorem mem_names {name : String} : name ∈ registry.names ↔ name ∈ registry.taken :=
  List.mem_mergeSort

/-- The names do not fall. -/
theorem pairwise_le_names (registry : Registry) : registry.names.Pairwise (· ≤ ·) := by
  have hsorted := @List.pairwise_mergeSort _ (fun left right : String => decide (left ≤ right))
    (by simpa using fun _ _ _ => String.le_trans) (by simpa using String.le_total) registry.taken
  unfold names
  simpa using hsorted

/-- The names rise, unless one of them was registered twice. -/
theorem pairwise_lt_names (hnodup : registry.taken.Nodup) : registry.names.Pairwise (· < ·) := by
  have hdistinct : registry.names.Nodup := (perm_names registry).nodup_iff.mpr hnodup
  apply List.Pairwise.imp₂ _ (pairwise_le_names registry) hdistinct
  intro left right hle hne
  apply String.not_le.mp
  intro hge
  exact hne (String.le_antisymm hle hge)

/-- Registries of the same names list them in the same order. -/
theorem names_eq_of_perm (h : registry.taken.Perm other.taken) : registry.names = other.names := by
  apply List.Perm.eq_of_pairwise (fun _ _ _ _ => String.le_antisymm) (pairwise_le_names _)
    (pairwise_le_names _)
  exact ((perm_names registry).trans h).trans (perm_names other).symm

end Registry

end CatalogClient
