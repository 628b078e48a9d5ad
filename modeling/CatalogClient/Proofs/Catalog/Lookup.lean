/-
# Looking up declarations

A reference and a declaration are held against each other in two ways: by the qualified names, in
which an absent package and an empty one are the same and a point may belong to either part, and by
the name and the package apart. Whatever agrees in the second way agrees in the first. So where
every declaration stands under its qualified name, what the second way finds stood under the name of
the first way already.
-/

import CatalogClient.Proofs.Catalog.Tables

namespace CatalogClient

namespace DeclarationTable

variable {table : DeclarationTable} {type : TypeRef} {declaration : Declaration}

theorem Consistent.find?_eq_some_iff (h : table.Consistent) :
    table.find? type = some declaration ↔ (type.qualifiedName, declaration) ∈ table := by
  rw [h.find?_eq, Keyed.get?_eq_some_iff h.nodup]

/-- The name under which a declaration is found is its own. -/
theorem Consistent.qualifiedName_of_find? (h : table.Consistent)
    (hfound : table.find? type = some declaration) :
    declaration.qualifiedName = type.qualifiedName :=
  (h.qualified _ (h.find?_eq_some_iff.mp hfound)).symm

/-- What has nothing under its qualified name has no declaration at all. -/
theorem Consistent.not_isFor_of_get?_eq_none (h : table.Consistent)
    (habsent : Keyed.get? table type.qualifiedName = none) : ∀ entry ∈ table, ¬entry.2.IsFor type :=
  (find?_eq_none_iff.mp ((h.find?_eq type).trans habsent)).2

/-- Where every declaration stands under its qualified name, a reference finds what stands under its
own one and nothing else: no declaration has both its name and its package without standing there.
What it finds has its qualified name, and the order of the table has no part in it. In any table a
reference finds nothing just if nothing stands under its qualified name and no declaration has both
its name and its package. -/
theorem find?_goes_by_qualifiedName (table : DeclarationTable) (type : TypeRef) :
    (table.Consistent →
      (∀ declaration,
        table.find? type = some declaration ↔ (type.qualifiedName, declaration) ∈ table) ∧
      (Keyed.get? table type.qualifiedName = none → ∀ entry ∈ table, ¬entry.2.IsFor type) ∧
      (∀ declaration, table.find? type = some declaration →
        declaration.qualifiedName = type.qualifiedName) ∧
      ∀ other : DeclarationTable, table.Perm other → other.find? type = table.find? type) ∧
    (table.find? type = none ↔
      type.qualifiedName ∉ Keyed.keys table ∧ ∀ entry ∈ table, ¬entry.2.IsFor type) := by
  refine ⟨fun h => ?_, find?_eq_none_iff⟩
  refine ⟨fun declaration => h.find?_eq_some_iff, h.not_isFor_of_get?_eq_none,
    fun declaration => h.qualifiedName_of_find?, fun other hperm => ?_⟩
  exact (h.find?_perm hperm type).symm

end DeclarationTable

namespace Sample

/-- A point in a package. -/
def dotted : Declaration where
  name := "Leaf"
  package := some "app.tree"

/-- An empty package. -/
def unpacked : Declaration where
  name := "Root"
  package := some ""

theorem consistent_dotted :
    DeclarationTable.Consistent [("app.tree.Leaf", dotted), ("Root", unpacked)] where
  nodup := by decide
  qualified := by decide

end Sample

/-- The point may belong to the name as well, and the package may be absent instead of empty. -/
theorem DeclarationTable.find?_goes_by_qualifiedName_sample :
    let table : DeclarationTable := [("app.tree.Leaf", Sample.dotted), ("Root", Sample.unpacked)]
    table.Consistent ∧
      table.find? (.named .composite (some "tree.Leaf") (some "app")) = some Sample.dotted ∧
      table.find? (.named .composite (some "Root")) = some Sample.unpacked ∧
      DeclarationTable.find? table.reverse (.named .composite (some "Root")) =
        some Sample.unpacked := by
  intro table
  have h : table.Consistent := Sample.consistent_dotted
  obtain ⟨hleaf, -⟩ :=
    (find?_goes_by_qualifiedName table (.named .composite (some "tree.Leaf") (some "app"))).1 h
  obtain ⟨hroot, -, -, hperm⟩ :=
    (find?_goes_by_qualifiedName table (.named .composite (some "Root"))).1 h
  have hfound : table.find? (.named .composite (some "Root")) = some Sample.unpacked :=
    (hroot _).mpr (by decide)
  exact ⟨h, (hleaf _).mpr (by decide), hfound,
    (hperm _ (List.reverse_perm table).symm).trans hfound⟩

end CatalogClient
