/-
# The names of declared types in a catalog

A reference names declared types at every depth: composite types and enumerations, and the raw types
of generic ones. Whatever has to be generated for a reference has one of these names, so a finite
catalog leads to finitely many names.
-/

import CatalogClient.Emission.Basic
import CatalogClient.Proofs.Resolution.Rules

namespace CatalogClient

namespace TypeRef

mutual

/-- The names of the composite types, the enumerations and the raw types in a reference. -/
def declaredNames : TypeRef → List String
  | ⟨kind, name, _, component, _, raw, arguments, bounds⟩ =>
      (if kind = .composite ∨ kind = .enumeration then [name.getD ""] else [])
        ++ (raw.map simpleName).toList
        ++ declaredNamesOption component ++ declaredNamesOption raw
        ++ declaredNamesList arguments ++ declaredNamesList bounds

/-- The names in an optional reference. -/
def declaredNamesOption : Option TypeRef → List String
  | none => []
  | some type => declaredNames type

/-- The names in all references of a list. -/
def declaredNamesList : List TypeRef → List String
  | [] => []
  | type :: rest => declaredNames type ++ declaredNamesList rest

end

variable {env : Environment}

theorem declaredNames_eq (type : TypeRef) : type.declaredNames =
    (if type.kind = .composite ∨ type.kind = .enumeration then [type.simpleName] else [])
      ++ (type.raw.map simpleName).toList
      ++ declaredNamesOption type.component ++ declaredNamesOption type.raw
      ++ declaredNamesList type.arguments ++ declaredNamesList type.bounds := by
  rcases type with ⟨kind, name, package, component, rawKind, raw, arguments, bounds⟩
  rw [declaredNames]
  rfl

theorem simpleName_mem_declaredNames {type : TypeRef} (hdeclared : type.isDeclared = true) :
    type.simpleName ∈ type.declaredNames := by
  have hkind : type.kind = .composite ∨ type.kind = .enumeration := by
    simpa [isDeclared] using hdeclared
  rw [declaredNames_eq]
  simp [hkind]

/-- Whether the names of all that a target has generated are among some names. -/
def Names (names : List String) (target : Target) : Prop :=
  ∀ found ∈ target.discovered, found.simpleName ∈ names

theorem Names.mono {names more : List String} {target : Target} (h : Names names target)
    (hmore : names ⊆ more) : Names more target :=
  fun found hmem => hmore (h found hmem)

theorem Names.join {names : List String} {targets : List Target}
    (h : ∀ target ∈ targets, Names names target) (wrapper : String) :
    Names names (Target.join targets wrapper) := by
  intro found hmem
  obtain ⟨target, htarget, hfound⟩ := List.mem_flatMap.mp hmem
  exact h target htarget found hfound

/-- A declared type has itself generated. -/
theorem Names.single {type : TypeRef} (hdeclared : type.isDeclared = true)
    (expression : Expression) :
    Names type.declaredNames { expression, contributing := [type], discovered := [type] } :=
  List.forall_mem_singleton.mpr (simpleName_mem_declaredNames hdeclared)

section Parts

variable (type : TypeRef)

theorem declaredNames_arguments_subset :
    declaredNamesList type.arguments ⊆ type.declaredNames := by
  intro found hfound
  rw [declaredNames_eq]
  simp [hfound]

theorem declaredNames_bounds_subset : declaredNamesList type.bounds ⊆ type.declaredNames := by
  intro found hfound
  rw [declaredNames_eq]
  simp [hfound]

theorem declaredNames_component_subset :
    declaredNamesOption type.component ⊆ type.declaredNames := by
  intro found hfound
  rw [declaredNames_eq]
  simp [hfound]

theorem simpleName_raw_mem {raw : TypeRef} (h : type.raw = some raw) :
    raw.simpleName ∈ type.declaredNames := by
  rw [declaredNames_eq]
  simp [h]

end Parts

theorem declaredNames_wrapped_subset {type : TypeRef} {wrapper : String} {parts : List TypeRef}
    (hwraps : type.wrapped? = some (wrapper, parts)) :
    declaredNamesList parts ⊆ type.declaredNames := by
  unfold wrapped? at hwraps
  split at hwraps
  · obtain ⟨inner, hinner, hsame⟩ := Option.map_eq_some_iff.mp hwraps
    cases hsame
    have hcomponent := type.declaredNames_component_subset
    rw [hinner] at hcomponent
    simpa [declaredNamesList, declaredNamesOption] using hcomponent
  · split at hwraps
    · cases hwraps
      exact type.declaredNames_arguments_subset
    · cases hwraps
      exact type.declaredNames_arguments_subset
    · cases hwraps
  · cases hwraps

mutual

theorem ResolvesTo.names : {type : TypeRef} → {target : Target} →
    ResolvesTo env type target → Names type.declaredNames target
  | _, _, .scalar _ => List.forall_mem_nil _
  | _, _, .enumeration hkind => .single (by simp [isDeclared, hkind]) _
  | _, _, .composite hkind _ => .single (by simp [isDeclared, hkind]) _
  | _, _, .wrapped hwraps hbelow =>
      .join (fun target hmem =>
        (hbelow.names target hmem).mono (declaredNames_wrapped_subset hwraps)) _
  | type, _, .generic _ hraw _ _ hbelow => by
      have hname := type.simpleName_raw_mem hraw
      refine List.forall_mem_cons.mpr ⟨hname, ?_⟩
      exact Names.join (fun target hmem =>
        (hbelow.names target hmem).mono type.declaredNames_arguments_subset) ""
  | _, _, .typeVariable _ => List.forall_mem_nil _
  | type, _, .wildcard _ hbelow =>
      Names.join (fun target hmem =>
        (hbelow.names target hmem).mono type.declaredNames_bounds_subset) ""
  | _, _, .any _ => List.forall_mem_nil _

theorem ResolveTo.names : {types : List TypeRef} → {targets : List Target} →
    ResolveTo env types targets → ∀ target ∈ targets, Names (declaredNamesList types) target
  | _, _, .nil => List.forall_mem_nil _
  | _, _, .cons hfirst hothers => by
      refine List.forall_mem_cons.mpr ⟨?_, fun other hmem => ?_⟩
      · exact hfirst.names.mono (by simp [declaredNamesList])
      · exact (hothers.names other hmem).mono (by simp [declaredNamesList])

end

/-- Whatever has to be generated for a reference has one of the names in it. -/
theorem simpleName_mem_of_mem_discovered {type found : TypeRef} (h : found ∈ type.discovered env) :
    found.simpleName ∈ type.declaredNames := by
  unfold discovered at h
  split at h
  · next target hresolve => exact (resolvesTo_of_resolve type target hresolve).names found h
  · cases h

end TypeRef

/-- The names of the declared types in the fields of some declarations. -/
def DeclarationTable.declaredNames (table : DeclarationTable) : List String :=
  table.flatMap fun entry => entry.2.fields.flatMap fun field => field.type.declaredNames

/-- The names of the declared types in a catalog: in its operations and in its declarations. -/
def Catalog.declaredNames (catalog : Catalog) : List String :=
  (catalog.operations.flatMap fun entry => entry.2.returnType.declaredNames
      ++ entry.2.parameters.flatMap fun parameter => parameter.type.declaredNames)
    ++ catalog.declarations.declaredNames

end CatalogClient
