/-
# What is read is well-formed

Validation checks every type reference at the place where it is read, so a catalog that is accepted
is well-formed at every depth.
-/

import CatalogClient.Catalog.Reading
import CatalogClient.Proofs.Catalog.WellFormed
import CatalogClient.Proofs.Validation.Reading

namespace CatalogClient

open Validated

/-- A type reference is accepted after all references in it are, and it is checked then. -/
theorem TypeRef.yields_readUnder (room : Nat) (document : Document) (above : List Path)
    (place : Place) : (TypeRef.readUnder room document above place).Yields WellFormed := by
  fun_induction TypeRef.readUnder room document above place with
  | case1 => exact .complain _
  | case2 => exact .complain _
  | case3 => exact .complain _
  | case4 above path members hreached hfresh hroom inner fields read ih =>
      have hinner : ∀ place, (inner document place).Yields WellFormed := ih
      have hoption : ∀ name, (fields.withDefault name none (inner.optional document)).Yields
          fun value => ∀ part ∈ value, part.WellFormed := fun name =>
        Keyed.yields_withDefault fields name (by simp) (Reader.yields_optional hinner)
      have hlist : ∀ name, (fields.withDefault name [] (inner.list .notTuple document)).Yields
          fun values => ∀ part ∈ values, part.WellFormed := fun name =>
        Keyed.yields_withDefault fields name (by simp) (Reader.yields_list hinner .notTuple)
      have hread : read.Yields fun type => (∀ part ∈ type.component, part.WellFormed) ∧
          (∀ part ∈ type.raw, part.WellFormed) ∧ (∀ part ∈ type.arguments, part.WellFormed) ∧
          ∀ part ∈ type.bounds, part.WellFormed := by
        refine .seq (.seq (.seq (.seq (.seq (.seq (.seq (.map (.trivial _) ?_) (.trivial _))
          (.trivial _)) (hoption _)) (.trivial _)) (hoption _)) (hlist _)) (hlist _)
        intro kind _ name _ package _ component hcomponent rawKind _ raw hraw arguments harguments
          bounds hbounds
        exact ⟨hcomponent, hraw, harguments, hbounds⟩
      intro type htype
      obtain ⟨⟨hcomponent, hraw, harguments, hbounds⟩, hrule⟩ := hread.check _ type htype
      exact ⟨Option.map_eq_none_iff.mp hrule, hcomponent, hraw, harguments, hbounds⟩
  | case5 => exact .complain _

/-- All type references in a catalog have a property. -/
structure Catalog.EachType (P : TypeRef → Prop) (catalog : Catalog) : Prop where
  returnTypes : ∀ entry ∈ catalog.operations, P entry.2.returnType
  parameters : ∀ entry ∈ catalog.operations, ∀ parameter ∈ entry.2.parameters, P parameter.type
  fields : ∀ entry ∈ catalog.declarations, ∀ field ∈ entry.2.fields, P field.type

section EachType

variable {P : TypeRef → Prop} {document : Document}

theorem Field.yields_each (h : ∀ place, (TypeRef.read document place).Yields P) (place : Place) :
    (Field.read document place).Yields fun field => P field.type := by
  refine Reader.yields_model (fun members => ?_) place
  refine .seq (.seq (.map (.trivial _) ?_) (Keyed.yields_required members "type" h)) (.trivial _)
  intro name _ type htype ignored _
  exact htype

theorem Declaration.yields_each (h : ∀ place, (TypeRef.read document place).Yields P)
    (place : Place) : (Declaration.read document place).Yields fun declaration =>
      ∀ field ∈ declaration.fields, P field.type := by
  refine Reader.yields_model (fun members => ?_) place
  refine .seq (.seq (.seq (.seq (.seq (.map (.trivial _) ?_) (.trivial _)) (.trivial _))
    (.trivial _)) (Keyed.yields_withDefault members "fields" (by simp)
      (Reader.yields_list (Field.yields_each h) .notList))) (.trivial _)
  intro name _ package _ kind _ typeParameters _ fields hfields constants _
  exact hfields

theorem Parameter.yields_each (h : ∀ place, (TypeRef.read document place).Yields P)
    (hunknown : P { kind := .unknown }) (place : Place) :
    (Parameter.read document place).Yields fun parameter => P parameter.type := by
  refine Reader.yields_model (fun members => ?_) place
  refine .seq (.seq (.seq (.seq (.map (.trivial _) ?_)
    (Keyed.yields_withDefault members "type" hunknown h)) (.trivial _)) (.trivial _)) (.trivial _)
  intro name _ type htype source _ value _ bound _
  exact htype

theorem Operation.yields_each (h : ∀ place, (TypeRef.read document place).Yields P)
    (hunknown : P { kind := .unknown }) (hvoid : P { kind := .void }) (place : Place) :
    (Operation.read document place).Yields fun operation => P operation.returnType ∧
      ∀ parameter ∈ operation.parameters, P parameter.type := by
  refine Reader.yields_model (fun members => ?_) place
  refine .seq (.seq (.seq (.seq (.map (.trivial _) ?_) (.trivial _)) (.trivial _))
    (Keyed.yields_withDefault members "parameters" (by simp)
      (Reader.yields_list (Parameter.yields_each h hunknown) .notList)))
    (Keyed.yields_withDefault members "return_type" hvoid h)
  intro method _ url _ name _ parameters hparameters returnType hreturn
  exact ⟨hreturn, hparameters⟩

/-- A catalog that is accepted has only types with a property that all types have which are read,
and those that stand for an absent one. -/
theorem Catalog.yields_each (h : ∀ place, (TypeRef.read document place).Yields P)
    (hunknown : P { kind := .unknown }) (hvoid : P { kind := .void }) (place : Place) :
    (Catalog.read document place).Yields (EachType P) := by
  refine Reader.yields_model (fun members => ?_) place
  refine .seq (.map (Keyed.yields_withDefault members "operations" (by simp)
      (Reader.yields_dictionary (Operation.yields_each h hunknown hvoid))) ?_)
    (Keyed.yields_withDefault members "declarations" (by simp)
      (Reader.yields_dictionary (Declaration.yields_each h)))
  intro operations hoperations declarations hdeclarations
  exact ⟨fun entry hentry => (hoperations entry hentry).1,
    fun entry hentry => (hoperations entry hentry).2, hdeclarations⟩

end EachType

/-- A catalog that is accepted is well-formed. -/
theorem Catalog.yields_read (document : Document) (place : Place) :
    (Catalog.read document place).Yields WellFormed := by
  intro catalog hcatalog
  obtain ⟨returnTypes, parameters, fields⟩ := Catalog.yields_each
    (TypeRef.yields_readUnder roomInside document []) (by decide) (by decide) place catalog hcatalog
  exact ⟨returnTypes, parameters, fields⟩

/-- A document stands for a well-formed catalog, if it stands for one at all. -/
theorem Catalog.wellFormed_of_ofJson {value : Json} {resolver : Resolver} {catalog : Catalog}
    (h : Catalog.ofJson value resolver = .ok catalog) : catalog.WellFormed := by
  unfold Catalog.ofJson at h
  split at h
  · cases h
  · next document hresolve =>
      cases hread : Catalog.read document document.top with
      | rejected faults =>
          rw [hread] at h
          cases h
      | accepted found =>
          rw [hread] at h
          obtain rfl := Except.ok.inj h
          exact Catalog.yields_read document document.top found hread

end CatalogClient
