/-
# Tables without repeated keys

In a table that has every key once, what is found under a key does not depend on the order of the
entries. Where declarations stand under their qualified names besides, they are found by their keys
alone.
-/

import CatalogClient.Catalog.Declaration

namespace CatalogClient

namespace Keyed

variable {α β : Type}

/-- Looking up and changing all values commute. -/
theorem get?_map (f : α → β) (table : Keyed α) (key : String) :
    Keyed.get? (table.map fun entry => (entry.1, f entry.2)) key = (table.get? key).map f := by
  induction table with
  | nil => rfl
  | cons entry rest ih =>
      obtain ⟨first, value⟩ := entry
      by_cases hkey : key = first
      · simp [get?, hkey]
      · simpa [get?, List.lookup_cons, beq_false_of_ne hkey] using ih

theorem get?_eq_some_iff {table : Keyed α} (hnodup : table.keys.Nodup) {key : String} {value : α} :
    table.get? key = some value ↔ (key, value) ∈ table := by
  constructor
  · intro hfound
    obtain ⟨before, after, hsplit, -⟩ := List.lookup_eq_some_iff.mp hfound
    simp [hsplit]
  · intro hmem
    obtain ⟨before, after, rfl⟩ := List.append_of_mem hmem
    refine List.lookup_eq_some_iff.mpr ⟨before, after, rfl, fun earlier hearlier => ?_⟩
    rw [keys, List.map_append] at hnodup
    have hne := (List.nodup_append.mp hnodup).2.2 earlier.1 (List.mem_map_of_mem hearlier) key
      (by simp)
    simpa using hne.symm

theorem get?_eq_none_iff {table : Keyed α} {key : String} :
    table.get? key = none ↔ key ∉ table.keys := by
  rw [get?, List.lookup_eq_none_iff, keys, List.mem_map]
  constructor
  · rintro h ⟨entry, hmem, rfl⟩
    simpa using h entry hmem
  · intro h entry hmem
    simpa using fun hkey : key = entry.1 => h ⟨entry, hmem, hkey.symm⟩

/-- The order of a table has no part in what is found, as long as no key repeats. -/
theorem get?_perm {table other : Keyed α} (h : table.Perm other) (hnodup : table.keys.Nodup)
    (key : String) : table.get? key = other.get? key := by
  have hnodup' : other.keys.Nodup := (h.map Prod.fst).nodup_iff.mp hnodup
  ext value
  rw [get?_eq_some_iff hnodup, get?_eq_some_iff hnodup', h.mem_iff]

end Keyed

/-- A named type has its name within its package as its qualified name, as declarations have. -/
theorem TypeRef.qualifiedName_of_name {type : TypeRef} {name : String}
    (hname : type.name = some name) : type.qualifiedName = qualify type.package name := by
  unfold qualifiedName simpleName qualify
  rw [hname]
  cases type.package with
  | none => rfl
  | some outer => by_cases hempty : outer = "" <;> simp [hempty]

/-- Whether a declaration has the name and the package of a reference. -/
def Declaration.IsFor (declaration : Declaration) (type : TypeRef) : Prop :=
  some declaration.name = type.name ∧ declaration.package = type.package

/-- Where the two parts of a name are the same, so is the name that they are joined to. -/
theorem Declaration.IsFor.qualifiedName_eq {declaration : Declaration} {type : TypeRef}
    (h : declaration.IsFor type) : declaration.qualifiedName = type.qualifiedName := by
  rw [qualifiedName, h.2, TypeRef.qualifiedName_of_name h.1.symm]

namespace DeclarationTable

/-- Nothing is found if there is nothing under the qualified name, and nothing that has both the
name and the package. -/
theorem find?_eq_none_iff {table : DeclarationTable} {type : TypeRef} :
    table.find? type = none ↔
      type.qualifiedName ∉ Keyed.keys table ∧ ∀ entry ∈ table, ¬entry.2.IsFor type := by
  rw [← Keyed.get?_eq_none_iff, find?]
  cases Keyed.get? table type.qualifiedName with
  | some declaration => simp
  | none =>
      rw [Option.map_eq_none_iff, List.find?_eq_none]
      simp [Declaration.IsFor]

/-- Every declaration stands under its own qualified name, and none under the same as another. -/
structure Consistent (table : DeclarationTable) : Prop where
  nodup : (Keyed.keys table).Nodup
  qualified : ∀ entry ∈ table, entry.1 = entry.2.qualifiedName

variable {table other : DeclarationTable}

theorem Consistent.perm (h : table.Consistent) (hperm : table.Perm other) : other.Consistent where
  nodup := (hperm.map Prod.fst).nodup_iff.mp h.nodup
  qualified entry hmem := h.qualified entry (hperm.mem_iff.mpr hmem)

/-- In a consistent table a declaration is only found under its key. -/
theorem Consistent.find?_eq (h : table.Consistent) (type : TypeRef) :
    table.find? type = Keyed.get? table type.qualifiedName := by
  cases hkey : Keyed.get? table type.qualifiedName with
  | some declaration => rw [find?, hkey]
  | none =>
      have habsent : type.qualifiedName ∉ Keyed.keys table := Keyed.get?_eq_none_iff.mp hkey
      refine find?_eq_none_iff.mpr ⟨habsent, fun entry hmem hfor => habsent ?_⟩
      have hkey : entry.1 = type.qualifiedName :=
        (h.qualified entry hmem).trans hfor.qualifiedName_eq
      exact hkey ▸ List.mem_map_of_mem hmem

/-- The order of a consistent table has no part in what is found. -/
theorem Consistent.find?_perm (h : table.Consistent) (hperm : table.Perm other) (type : TypeRef) :
    table.find? type = other.find? type := by
  rw [h.find?_eq, (h.perm hperm).find?_eq, Keyed.get?_perm hperm h.nodup]

end DeclarationTable

end CatalogClient
