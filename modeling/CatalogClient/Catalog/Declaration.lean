/-
# Declarations

What the catalog says about a declared type: the fields of a composite type, the constants of an
enumeration, and the parameters of a generic type. Declarations stand in an ordered table.
-/

import CatalogClient.Keyed
import CatalogClient.Catalog.TypeRef

namespace CatalogClient

/-- A field of a composite type. An ignored field never reaches the client. -/
structure Field where
  name : String
  type : TypeRef
  ignored : Bool := false
  deriving DecidableEq

/-- The declaration of a composite type or of an enumeration. -/
structure Declaration where
  name : String
  package : Option String := none
  kind : TypeKind := .composite
  typeParameters : List String := []
  fields : List Field := []
  constants : List String := []
  deriving DecidableEq

/-- The name of a declaration within its package. -/
def Declaration.qualifiedName (declaration : Declaration) : String :=
  qualify declaration.package declaration.name

/-- The fields that the client sees. -/
def Declaration.visibleFields (declaration : Declaration) : List Field :=
  declaration.fields.filter fun field => !field.ignored

/-- Declarations under their keys. -/
abbrev DeclarationTable := Keyed Declaration

namespace DeclarationTable

/-- The declaration of a type: the one under its qualified name, or else the first one that has both
its name and its package. -/
def find? (table : DeclarationTable) (type : TypeRef) : Option Declaration :=
  match Keyed.get? table type.qualifiedName with
  | some declaration => some declaration
  | none =>
      (List.find?
        (fun entry => decide (some entry.2.name = type.name ∧ entry.2.package = type.package))
        table).map Prod.snd

/-- The table of a list of declarations, each under its qualified name. -/
def ofList (declarations : List Declaration) : DeclarationTable :=
  Keyed.ofEntries (declarations.map fun declaration => (declaration.qualifiedName, declaration))

/-- Whatever is found stands in the table. -/
theorem mem_of_find? {table : DeclarationTable} {type : TypeRef} {declaration : Declaration}
    (h : table.find? type = some declaration) : ∃ key, (key, declaration) ∈ table := by
  unfold find? at h
  split at h
  next found _ lookup =>
    cases h
    refine ⟨type.qualifiedName, ?_⟩
    unfold Keyed.get? at lookup
    obtain ⟨before, after, split, _⟩ := List.lookup_eq_some_iff.mp lookup
    simp [split]
  next =>
    obtain ⟨entry, found, rfl⟩ := Option.map_eq_some_iff.mp h
    exact ⟨entry.1, List.mem_of_find?_eq_some found⟩

end DeclarationTable

end CatalogClient
