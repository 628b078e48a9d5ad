/-
# What can go wrong with an accepted catalog

Validation has gone through every reference of an accepted catalog as it stands there. A generation
puts new references together from their parts, and the only one that it checks again is the raw type
of a generic type. So a generation of an accepted catalog fails at a placeholder that nothing binds,
or at a raw type without a name. The command has no words for the latter.
-/

import CatalogClient.Command.Run
import CatalogClient.Proofs.Catalog.Reading
import CatalogClient.Proofs.Client.Binding
import CatalogClient.Proofs.Client.Closure
import CatalogClient.Proofs.Emission.Nameless
import CatalogClient.Proofs.Emission.Stops

namespace CatalogClient

namespace Catalog

variable {catalog : Catalog} {env : Environment}

/-- The types that the first pass resolves: those of the operations, and those of the fields of the
composite types that the search visits. -/
def Resolves (catalog : Catalog) (env : Environment) (type : TypeRef) : Prop :=
  (∃ entry ∈ catalog.operations, type ∈ entry.2.discoveredTypes) ∨
    ∃ owner ∈ env.visits [] (catalog.roots env), owner.kind = .composite ∧
      ∃ declaration, env.declarations.find? owner = some declaration ∧
        ∃ field ∈ declaration.visibleFields, field.type = type

/-- Validation has gone through all types that the first pass resolves. -/
theorem WellFormed.of_resolves {scope : Scope} (hwell : catalog.WellFormed) {type : TypeRef}
    (h : catalog.Resolves (catalog.environment scope) type) : type.WellFormed := by
  rcases h with ⟨entry, hentry, htype⟩ | ⟨owner, -, -, declaration, hfound, field, hfield, rfl⟩
  · exact hwell.of_mem_discoveredTypes hentry htype
  · obtain ⟨key, hmem⟩ := DeclarationTable.mem_of_find? hfound
    exact hwell.fields _ hmem field (List.mem_filter.mp hfield).1

/-- The first pass fails with the rejection of a type that it resolves. -/
theorem exists_of_discover_eq_error {found : Emission} {rejection : Rejection}
    (h : catalog.discover env {} = (found, .error rejection)) :
    ∃ type, catalog.Resolves env type ∧ (type.resolve env).outcome = .error rejection := by
  rcases Emission.stops_of_mapAll h with ⟨type, htype, hfailed⟩ | ⟨owner, howner, hstops⟩
  · obtain ⟨entry, hentry, htype⟩ := List.mem_flatMap.mp htype
    exact ⟨type, Or.inl ⟨entry, hentry, htype⟩, hfailed⟩
  · obtain ⟨hkind, declaration, hfound, field, hfield, hfailed⟩ := hstops
    exact ⟨field.type, Or.inr ⟨owner, howner, hkind, declaration, hfound, field, hfield, rfl⟩,
      hfailed⟩

/-- Once the first pass has succeeded, all types that it resolves do. -/
theorem exists_target_of_discover {found : Emission}
    (h : catalog.discover env {} = (found, .ok ())) {type : TypeRef}
    (htype : catalog.Resolves env type) : ∃ target, (type.resolve env).outcome = .ok target := by
  rcases htype with ⟨entry, hentry, htype⟩ |
    ⟨owner, howner, hkind, declaration, hfound, field, hfield, rfl⟩
  · exact resolves_of_discover h entry hentry type htype
  · obtain ⟨files, -, hrender⟩ := (discover_eq_ok h).1.files
    obtain ⟨file, -, hfile⟩ := TypeRef.exists_rendered hrender howner
    have hok := TypeRef.resolves_of_sourceFile hkind hfound hfile field hfield
    cases hresolve : (field.type.resolve env).outcome with
    | error rejection =>
        rw [hresolve] at hok
        cases hok
    | ok target => exact ⟨target, rfl⟩

/-- A generation fails where its first pass does. -/
theorem generateWithin_of_discover_eq_error {scope : Scope} (extra : List String)
    {found : Emission} {rejection : Rejection}
    (h : catalog.discover (catalog.environment scope) {} = (found, .error rejection)) :
    (catalog.generateWithin scope extra).outcome = .error (.rejected rejection) := by
  have hfailed : ((catalog.discover (catalog.environment scope)).mapError BuildFault.rejected) {} =
      (found, .error (.rejected rejection)) := by
    rw [Staged.mapError, h]
    rfl
  unfold generateWithin generating
  rw [Staged.bind_of_error hfailed]

end Catalog

namespace Sample

/-- A catalog with a generic type whose raw type has a package and no name. -/
def namelessDocument : Json :=
  .object [("operations", .object [("list", .object [
    ("url", .string "/users"), ("function_name", .string "getUsers"),
    ("return_type", .object [
      ("kind", .string "parameterized"), ("raw_kind", .string "other"),
      ("raw", .object [("namespace", .string "app")]),
      ("arguments", .array [.object [("kind", .string "string")]])])])])]

/-- The type of the response in that catalog. -/
def namelessPage : TypeRef where
  kind := .parameterized
  rawKind := some .other
  raw := some { package := some "app" }
  arguments := [{ kind := .string }]

def namelessCatalog : Catalog where
  operations := [("list", {
    url := "/users", functionName := "getUsers", returnType := namelessPage })]

theorem ofJson_nameless : Catalog.ofJson namelessDocument = .ok namelessCatalog := by
  have hread : (Catalog.ofJson namelessDocument).toOption = some namelessCatalog := by
    decide +kernel
  cases houtcome : Catalog.ofJson namelessDocument with
  | error fault =>
      rw [houtcome] at hread
      cases hread
  | ok catalog =>
      rw [houtcome] at hread
      rw [Option.some.inj hread]

end Sample

namespace Catalog

/-- How the generation of an accepted catalog ends. It is rejected exactly if the first pass
resolves a type in which it meets a generic type of a scanned package whose raw type has no name,
and this is the one rejection there is. It returns if there is no such type and all placeholders are
bound, and otherwise it fails with the first placeholder that is not bound. The command reports
every failure but the rejection. -/
theorem generate_fails_only_at_names {value : Json} {resolver : Resolver} {catalog : Catalog}
    (h : Catalog.ofJson value resolver = .ok catalog) (packages extra : List String) :
    let env := catalog.environment (.ofPackages packages)
    ((catalog.generate packages extra).outcome = .error (.rejected TypeRef.namelessRejection) ↔
      ∃ type, catalog.Resolves env type ∧ type.Unnameable env) ∧
    ((∃ generated, (catalog.generate packages extra).outcome = .ok generated) ↔
      (∀ type, catalog.Resolves env type → ¬type.Unnameable env) ∧
        ∀ entry ∈ catalog.operations, entry.2.Bound) ∧
    ∀ fault, (catalog.generate packages extra).outcome = .error fault →
      (fault = .rejected TypeRef.namelessRejection ∨
        ∃ operation placeholder, catalog.FirstUnbound operation placeholder ∧
          fault = .unbound placeholder operation.functionName) ∧
      ((RunFault.building fault).report? = none ↔
        fault = .rejected TypeRef.namelessRejection) := by
  intro env
  have hwell := Catalog.wellFormed_of_ofJson h
  rcases hdiscover : catalog.discover env {} with ⟨found, outcome⟩
  cases outcome with
  | error rejection =>
      obtain ⟨type, htype, hfailed⟩ := exists_of_discover_eq_error hdiscover
      obtain ⟨rfl, hnameless⟩ :=
        (TypeRef.resolve_eq_error_iff (hwell.of_resolves htype)).mp hfailed
      have hgenerate : (catalog.generate packages extra).outcome =
          .error (.rejected TypeRef.namelessRejection) :=
        generateWithin_of_discover_eq_error extra hdiscover
      rw [hgenerate]
      refine ⟨⟨fun _ => ⟨type, htype, hnameless⟩, fun _ => rfl⟩, ⟨nofun, ?_⟩,
        fun fault hfault => ?_⟩
      · rintro ⟨hnamed, -⟩
        exact absurd hnameless (hnamed type htype)
      · obtain rfl := Except.error.inj hfault
        exact ⟨Or.inl rfl, fun _ => rfl, fun _ => rfl⟩
  | ok _ =>
      have hnamed : ∀ type, catalog.Resolves env type → ¬type.Unnameable env := by
        intro type htype hnameless
        obtain ⟨target, htarget⟩ := exists_target_of_discover hdiscover htype
        have hfailed :=
          (TypeRef.resolve_eq_error_iff (hwell.of_resolves htype)).mpr ⟨rfl, hnameless⟩
        cases htarget.symm.trans hfailed
      by_cases hbound : ∀ entry ∈ catalog.operations, entry.2.Bound
      · obtain ⟨functions, hfunctions⟩ := functionsResolved_eq_ok hdiscover hbound
        obtain ⟨generated, hgenerate⟩ : ∃ generated,
            (catalog.generate packages extra).outcome = .ok generated :=
          generateWithin_returns extra hdiscover (by rw [hfunctions]; rfl)
        rw [hgenerate]
        refine ⟨⟨nofun, ?_⟩, ⟨fun _ => ⟨hnamed, hbound⟩, fun _ => ⟨generated, rfl⟩⟩, nofun⟩
        rintro ⟨type, htype, hnameless⟩
        exact absurd hnameless (hnamed type htype)
      · obtain ⟨operation, placeholder, hfirst⟩ := exists_firstUnbound hbound
        have hgenerate : (catalog.generate packages extra).outcome =
            .error (.unbound placeholder operation.functionName) :=
          generateWithin_eq_error extra hdiscover (functionsResolved_eq_error hdiscover hfirst)
        rw [hgenerate]
        refine ⟨⟨nofun, ?_⟩, ⟨nofun, fun hboth => absurd hboth.2 hbound⟩, fun fault hfault => ?_⟩
        · rintro ⟨type, htype, hnameless⟩
          exact absurd hnameless (hnamed type htype)
        · obtain rfl := Except.error.inj hfault
          exact ⟨Or.inr ⟨operation, placeholder, hfirst, rfl⟩, nofun, nofun⟩

/-- A catalog is accepted, and nothing can be generated from it. -/
theorem generate_fails_only_at_names_sample :
    Catalog.ofJson Sample.namelessDocument = .ok Sample.namelessCatalog ∧
      (Sample.namelessCatalog.generate ["app"]).outcome =
        .error (.rejected TypeRef.namelessRejection) := by
  obtain ⟨hrejected, -⟩ := generate_fails_only_at_names Sample.ofJson_nameless ["app"] []
  refine ⟨Sample.ofJson_nameless, hrejected.mpr ⟨Sample.namelessPage, ?_, ?_⟩⟩
  · exact Or.inl ⟨_, List.mem_cons_self, List.mem_cons_self⟩
  · exact ⟨Sample.namelessPage, .self, rfl, rfl, _, rfl, by decide, by decide⟩

end Catalog

end CatalogClient
