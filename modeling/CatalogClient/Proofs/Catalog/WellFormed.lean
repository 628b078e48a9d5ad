/-
# Well-formed catalogs

The kind of a type reference decides which of its parts have to be there. A reference is well-formed
if it obeys the rule of its kind and all references in it are well-formed too, and a catalog is
well-formed if all references in it are.
-/

import CatalogClient.Catalog.Basic

namespace CatalogClient

/-- A reference that obeys the rules of its kind, and so do all references that it is made of. This
is what validation promises of every reference in a catalog. -/
inductive TypeRef.WellFormed : TypeRef → Prop
  | intro {type : TypeRef} (own : type.brokenRule? = none)
      (component : ∀ inner ∈ type.component, inner.WellFormed)
      (raw : ∀ inner ∈ type.raw, inner.WellFormed)
      (arguments : ∀ inner ∈ type.arguments, inner.WellFormed)
      (bounds : ∀ inner ∈ type.bounds, inner.WellFormed) : type.WellFormed

namespace TypeRef

/-- Validation asks enumerations and composite types for a name. -/
theorem hasName_of_brokenRule?_eq_none {type : TypeRef} (hdeclared : type.isDeclared = true)
    (hrule : type.brokenRule? = none) : type.hasName = true := by
  rcases type with ⟨kind, name, package, component, rawKind, raw, arguments, bounds⟩
  cases kind <;> simp_all [isDeclared, brokenRule?]

theorem WellFormed.hasName {type : TypeRef} (hwell : type.WellFormed)
    (hdeclared : type.isDeclared = true) : type.hasName = true := by
  obtain ⟨own, -, -, -, -⟩ := hwell
  exact hasName_of_brokenRule?_eq_none hdeclared own

theorem WellFormed.arguments {type : TypeRef} (hwell : type.WellFormed) :
    ∀ inner ∈ type.arguments, inner.WellFormed := by
  obtain ⟨-, -, -, harguments, -⟩ := hwell
  exact harguments

theorem WellFormed.bounds {type : TypeRef} (hwell : type.WellFormed) :
    ∀ inner ∈ type.bounds, inner.WellFormed := by
  obtain ⟨-, -, -, -, hbounds⟩ := hwell
  exact hbounds

theorem wellFormed_iff {type : TypeRef} :
    type.WellFormed ↔ type.brokenRule? = none ∧ (∀ inner ∈ type.component, inner.WellFormed) ∧
      (∀ inner ∈ type.raw, inner.WellFormed) ∧ (∀ inner ∈ type.arguments, inner.WellFormed) ∧
      ∀ inner ∈ type.bounds, inner.WellFormed := by
  constructor
  · rintro ⟨own, component, raw, arguments, bounds⟩
    exact ⟨own, component, raw, arguments, bounds⟩
  · rintro ⟨own, component, raw, arguments, bounds⟩
    exact ⟨own, component, raw, arguments, bounds⟩

mutual

/-- Whether a reference is well-formed is decided part by part. -/
def decWellFormed : (type : TypeRef) → Decidable type.WellFormed
  | ⟨_, _, _, component, _, raw, arguments, bounds⟩ =>
      haveI := decWellFormedOption component
      haveI := decWellFormedOption raw
      haveI := decWellFormedList arguments
      haveI := decWellFormedList bounds
      decidable_of_iff _ wellFormed_iff.symm

/-- Whether an optional reference is well-formed. -/
def decWellFormedOption : (type : Option TypeRef) → Decidable (∀ inner ∈ type, inner.WellFormed)
  | none => isTrue (by simp)
  | some type =>
      haveI := decWellFormed type
      decidable_of_iff type.WellFormed (by simp)

/-- Whether all references of a list are well-formed. -/
def decWellFormedList : (types : List TypeRef) → Decidable (∀ inner ∈ types, inner.WellFormed)
  | [] => isTrue (by simp)
  | type :: rest =>
      haveI := decWellFormed type
      haveI := decWellFormedList rest
      decidable_of_iff (type.WellFormed ∧ ∀ inner ∈ rest, inner.WellFormed) (by simp)

end

instance (type : TypeRef) : Decidable type.WellFormed := decWellFormed type

/-- A name that is there and not empty is the simple name. -/
theorem name_of_hasName {type : TypeRef} (hnamed : type.hasName = true) :
    type.name = some type.simpleName := by
  unfold hasName simpleName at *
  cases hname : type.name with
  | none => simp [hname] at hnamed
  | some name => rfl

end TypeRef

/-- A catalog whose type references all obey the rules of their kinds. -/
structure Catalog.WellFormed (catalog : Catalog) : Prop where
  returnTypes : ∀ entry ∈ catalog.operations, entry.2.returnType.WellFormed
  parameters : ∀ entry ∈ catalog.operations, ∀ parameter ∈ entry.2.parameters,
    parameter.type.WellFormed
  fields : ∀ entry ∈ catalog.declarations, ∀ field ∈ entry.2.fields, field.type.WellFormed

end CatalogClient
