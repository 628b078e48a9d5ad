/-
# Ignored fields leak nothing

Whatever is done to the ignored fields of a catalog, generation has the same outcome and the same
records. In particular a type that only ignored fields lead to is neither emitted nor imported.
-/

import CatalogClient.Proofs.Catalog.Tables
import CatalogClient.Proofs.Client.Functions
import CatalogClient.Proofs.Emission.Agreement

namespace CatalogClient

/-- The declarations without their ignored fields. -/
def DeclarationTable.visible (table : DeclarationTable) : DeclarationTable :=
  table.map fun entry => (entry.1, entry.2.visible)

/-- The catalog without the ignored fields of its declarations. -/
def Catalog.visible (catalog : Catalog) : Catalog :=
  { catalog with declarations := catalog.declarations.visible }

/-- Ignored fields have no part in which declaration is found. -/
theorem DeclarationTable.find?_visible (table : DeclarationTable) (type : TypeRef) :
    table.visible.find? type = (table.find? type).map Declaration.visible := by
  have hkey : Keyed.get? table.visible type.qualifiedName =
      (Keyed.get? table type.qualifiedName).map Declaration.visible :=
    Keyed.get?_map _ _ _
  unfold find?
  rw [hkey]
  cases Keyed.get? table type.qualifiedName with
  | some declaration => rfl
  | none =>
      simp only [visible, List.find?_map, Option.map_map, Option.map_none]
      rfl

namespace Catalog

variable {catalog other : Catalog}

/-- Catalogs that differ in ignored fields at most show the same declarations. -/
theorem agrees_of_visible_eq (h : catalog.visible = other.visible) (scope : Scope) :
    (catalog.environment scope).Agrees (other.environment scope) where
  scope := rfl
  visible type := by
    have htables := congrArg Catalog.declarations h
    change catalog.declarations.visible = other.declarations.visible at htables
    simp only [environment, ← DeclarationTable.find?_visible, htables]

variable {env env' : Environment}

theorem mapAll_congr (h : env.Agrees env') (types : List TypeRef) :
    mapAll env types = mapAll env' types := by
  induction types with
  | nil => rfl
  | cons type rest ih => rw [mapAll, mapAll, Emitting.map_congr h, ih]

theorem buildFunctions_congr (h : env.Agrees env') (earlier operations : Keyed Operation) :
    buildFunctions env earlier operations = buildFunctions env' earlier operations := by
  induction operations generalizing earlier with
  | nil => rfl
  | cons entry rest ih =>
      unfold buildFunctions Operation.requestEmitting
      simp only [Emitting.map_congr h, ih]

/-- The passes of a generation are the same for the same operations. -/
theorem generating_congr (h : env.Agrees env') (hoperations : catalog.operations = other.operations)
    (extra : List String) : catalog.generating env extra = other.generating env' extra := by
  have hassemble : catalog.assemble extra = other.assemble extra := by
    funext functions
    unfold assemble
    rw [hoperations]
  unfold generating discover
  rw [mapAll_congr h, buildFunctions_congr h, hoperations, hassemble]

section Reached

variable {catalog : Catalog} {scope : Scope} {extra : List String} {generated : Generated}
  (h : (catalog.generateWithin scope extra).outcome = .ok generated)
include h

/-- Every registered name is that of a reached type. -/
theorem exists_reached_of_mem_taken {name : String} (hname : name ∈ generated.registry.taken) :
    ∃ type, (catalog.environment scope).Reaches (catalog.roots (catalog.environment scope)) type ∧
      type.simpleName = name := by
  rw [taken_of_entries (emitted_of_generate h).1] at hname
  obtain ⟨type, hvisited, hname⟩ := List.mem_map.mp hname
  exact ⟨type, Environment.reaches_of_mem_visits type hvisited, hname⟩

/-- Every origin is the qualified name of a reached type. -/
theorem exists_reached_of_originOf {name origin : String}
    (horigin : generated.registry.originOf name = some origin) :
    ∃ type, (catalog.environment scope).Reaches (catalog.roots (catalog.environment scope)) type ∧
      type.qualifiedName = origin := by
  obtain ⟨before, after, hsplit, -⟩ := List.lookup_eq_some_iff.mp horigin
  have hentry : (name, origin) ∈ generated.registry.entries := by simp [hsplit]
  rw [(emitted_of_generate h).1] at hentry
  obtain ⟨type, hvisited, hentry⟩ := List.mem_map.mp hentry
  exact ⟨type, Environment.reaches_of_mem_visits type hvisited, congrArg Prod.snd hentry⟩

/-- A declaration file is that of a reached type, and it only imports reached types. -/
theorem exists_reached_of_mem_declarationFiles {file : SourceFile}
    (hfile : file ∈ generated.project.declarationFiles) {name : String}
    (hname : file.name = Emission.fileName name ∨ Emission.importLine name ∈ file.imports) :
    ∃ type, (catalog.environment scope).Reaches (catalog.roots (catalog.environment scope)) type ∧
      type.simpleName = name := by
  obtain ⟨type, hvisited, hsource⟩ := TypeRef.exists_of_rendered (emitted_of_generate h).2 hfile
  have hreached := Environment.reaches_of_mem_visits type hvisited
  rcases hname with hname | hline
  · have hown := (TypeRef.names_of_sourceFile hsource).1
    exact ⟨type, hreached, fileName_inj.mp (hown.symm.trans hname)⟩
  · have hdeclared := Environment.isDeclared_of_mem_visits type hvisited
    obtain ⟨-, himports⟩ := TypeRef.imports_of_sourceFile hdeclared hsource
    obtain ⟨found, hfound, -, -, hsame⟩ := himports _ hline
    exact ⟨found, .field hreached hfound, (importLine_inj.mp hsame).symm⟩

end Reached

end Catalog

namespace Sample

/-- The sample with fields that are ignored, one of which leads to a type of its own. -/
def guardedCatalog : Catalog where
  operations := catalog.operations
  declarations := .ofList [
    { name := "Node", package := some "app", fields := [
      { name := "secret", type := composite "Secret", ignored := true },
      { name := "next", type := composite "Node" },
      { name := "owner", type := composite "User" }] },
    { name := "User", package := some "app", fields := [
      { name := "nodes", type := { kind := .array, component := some (composite "Node") } },
      { name := "role", type := { kind := .string }, ignored := true },
      { name := "role", type := role }] }]

end Sample

namespace Catalog

/-- Ignored fields leak nothing. Catalogs that differ in ignored fields at most have the same
generation: the same records, and the same files and registry or the same fault. A type that the
fields which are not ignored do not lead to is not emitted: its qualified name is the origin of no
name, and unless another type has its simple name, this name is not registered, has no file and is
not imported anywhere. -/
theorem generate_eq_of_visible_eq {catalog other : Catalog} (h : catalog.visible = other.visible)
    (packages extra : List String) :
    let env := catalog.environment (.ofPackages packages)
    let roots := catalog.roots env
    catalog.generate packages extra = other.generate packages extra ∧
    ∀ generated, (catalog.generate packages extra).outcome = .ok generated →
      ∀ hidden : TypeRef,
        ((∀ type, env.Reaches roots type → type.qualifiedName ≠ hidden.qualifiedName) →
          ∀ name, generated.registry.originOf name ≠ some hidden.qualifiedName) ∧
        ((∀ type, env.Reaches roots type → type.simpleName ≠ hidden.simpleName) →
          hidden.simpleName ∉ generated.registry.taken ∧
          (∀ file ∈ generated.project.declarationFiles,
            file.name ≠ Emission.fileName hidden.simpleName ∧
            Emission.importLine hidden.simpleName ∉ file.imports) ∧
          ∃ last, generated.project.files = generated.project.declarationFiles ++ [last] ∧
            functionsImportLine hidden.simpleName ∉ last.imports) := by
  intro env roots
  refine ⟨?_, fun generated hok hidden => ⟨fun hforeign name horigin => ?_, fun hforeign => ?_⟩⟩
  · have hoperations := congrArg Catalog.operations h
    change catalog.operations = other.operations at hoperations
    unfold generate generateWithin
    rw [generating_congr (agrees_of_visible_eq h _) hoperations]
  · obtain ⟨type, hreached, hsame⟩ := exists_reached_of_originOf hok horigin
    exact hforeign type hreached hsame
  · have hfree : hidden.simpleName ∉ generated.registry.taken := by
      intro htaken
      obtain ⟨type, hreached, hsame⟩ := exists_reached_of_mem_taken hok htaken
      exact hforeign type hreached hsame
    have hfiles : ∀ file ∈ generated.project.declarationFiles,
        ¬(file.name = Emission.fileName hidden.simpleName ∨
          Emission.importLine hidden.simpleName ∈ file.imports) := by
      intro file hfile hname
      obtain ⟨type, hreached, hsame⟩ := exists_reached_of_mem_declarationFiles hok hfile hname
      exact hforeign type hreached hsame
    obtain ⟨functions, -, hproject⟩ := files_of_generate hok
    refine ⟨hfree, fun file hfile => not_or.mp (hfiles file hfile), _, hproject, fun hline => ?_⟩
    exact hfree (mem_taken_of_mem_imports hline)

theorem generate_eq_of_visible_eq_sample :
    Sample.guardedCatalog ≠ Sample.catalog ∧
    Sample.guardedCatalog.visible = Sample.catalog.visible ∧
    Sample.guardedCatalog.generate ["app"] = Sample.catalog.generate ["app"] ∧
    ∃ generated, (Sample.guardedCatalog.generate ["app"]).outcome = .ok generated ∧
      "Secret" ∉ generated.registry.taken := by
  have hvisible : Sample.guardedCatalog.visible = Sample.catalog.visible := by decide
  obtain ⟨hsame, hhidden⟩ := generate_eq_of_visible_eq hvisible ["app"] []
  obtain ⟨generated, hok⟩ := Sample.generate_returns
  have hguarded : (Sample.guardedCatalog.generate ["app"]).outcome = .ok generated := by
    rw [← hok]
    exact congrArg Logged.outcome hsame
  refine ⟨by decide, hvisible, hsame, generated, hguarded, ?_⟩
  refine ((hhidden generated hguarded (Sample.composite "Secret")).2 fun type hreached => ?_).1
  have hclosed : type ∈ [Sample.composite "Node", Sample.composite "User", Sample.role] :=
    hreached.of_closed (by decide) (by decide)
  have hnames : ∀ type ∈ [Sample.composite "Node", Sample.composite "User", Sample.role],
      type.simpleName ≠ "Secret" := by
    decide
  exact hnames type hclosed

end Catalog

end CatalogClient
