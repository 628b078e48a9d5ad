/-
# Functions are built in a finished project

Whatever the types of an operation lead to has been emitted by the first pass, so the second one
builds its functions without emitting anything: each is the function of the operation on its own,
and no file is added or changed. The file of the functions is then moved to the end. It is told from
the others by what it holds, and not by its name, which a declared type may have as well.
-/

import CatalogClient.Proofs.Client.Closure

namespace CatalogClient

namespace Operation

section Alone

variable {operation : Operation} {map : TypeRef → Logged BuildFault Target}

theorem outcome_pathArguments (placeholders : List String) :
    (operation.pathArguments map placeholders).outcome =
      operation.pathArguments (fun type => (map type).outcome) placeholders := by
  induction placeholders with
  | nil => rfl
  | cons placeholder rest ih =>
      unfold pathArguments
      cases operation.pathParameter? placeholder with
      | none => rfl
      | some parameter =>
          simp only [Logged.bind_outcome, ih]
          rfl

theorem outcome_bodyArgument :
    (operation.bodyArgument map).outcome =
      operation.bodyArgument fun type => (map type).outcome := by
  unfold bodyArgument
  cases operation.bodyParameter? with
  | none => rfl
  | some parameter =>
      simp only [Logged.bind_outcome]
      rfl

/-- The records of the mapping have no part in the function. -/
theorem outcome_request :
    (operation.request map).outcome = operation.request fun type => (map type).outcome := by
  unfold request
  simp only [Logged.bind_outcome, outcome_pathArguments, outcome_bodyArgument]
  rfl

end Alone

theorem outcome_requestOnly (operation : Operation) (env : Environment) :
    (operation.requestOnly env).outcome = operation.requestResolved env :=
  outcome_request

end Operation

namespace Catalog

/-- The functions that are built for some operations are those of the operations on their own. -/
theorem functionsResolved_eq_ok_iff {env : Environment} {operations : Keyed Operation}
    {functions : List RequestFunction} :
    functionsResolved env operations = .ok functions ↔
      operations.map (fun entry => (entry.2.requestOnly env).outcome) = functions.map .ok := by
  simp only [Operation.outcome_requestOnly]
  exact mapM_eq_ok_iff

end Catalog

theorem functionsImportLine_inj {name other : String} :
    functionsImportLine name = functionsImportLine other ↔ name = other := by
  constructor
  · intro h
    exact twice_inj h
  · rintro rfl
    rfl

theorem functionsImportLine_ne_header (name : String) :
    functionsImportLine name ≠ functionsHeader := by
  intro h
  have hstart : (functionsImportLine name).toList.take 14 = "import type \x7b ".toList := by
    unfold functionsImportLine
    simp only [String.toList_append, List.append_assoc]
    exact List.take_left' rfl
  rw [h] at hstart
  exact absurd hstart (by decide)

namespace Catalog

/-- The file of the functions imports a type only if its name is registered. -/
theorem mem_taken_of_mem_imports {registry : Registry} {functions : List RequestFunction}
    {extra : List String} {name : String}
    (h : functionsImportLine name ∈ (functionsFile registry functions extra).imports) :
    name ∈ registry.taken := by
  rw [functionsFile_eq] at h
  rcases mem_foldl_addOnce.mp h with hheader | hline
  · exact absurd (List.mem_singleton.mp hheader) (functionsImportLine_ne_header name)
  · obtain ⟨other, hother, hsame⟩ := List.mem_map.mp hline
    rw [← functionsImportLine_inj.mp hsame]
    exact List.mem_mergeSort.mp hother

end Catalog

/-- The files of the visited types are named for the registered names, in the order of their
registration. -/
theorem Emission.Extends.fileNames {env : Environment} {found : Emission} {visited : List TypeRef}
    (h : Emission.Extends env {} found visited) :
    found.project.fileNames = found.registry.taken.map Emission.fileName := by
  obtain ⟨files, hfiles, hrender⟩ := h.files
  rw [Project.fileNames, hfiles, h.taken]
  exact TypeRef.fileNames_of_rendered hrender

/-- The file of a visited type has one definition and no function. -/
theorem Emission.Extends.definitions {env : Environment} {found : Emission}
    {visited : List TypeRef} (h : Emission.Extends env {} found visited) :
    ∀ file ∈ found.project.files,
      (∃ definition, file.definitions = [definition]) ∧ file.functions = [] := by
  intro file hmem
  obtain ⟨files, hfiles, hrender⟩ := h.files
  rw [hfiles] at hmem
  obtain ⟨type, -, hsource⟩ := TypeRef.exists_of_rendered hrender hmem
  obtain ⟨imports, definition, -, rfl⟩ := TypeRef.eq_of_sourceFile hsource
  exact ⟨⟨definition, rfl⟩, rfl⟩

namespace Sample

/-- A catalog with a type that is called like the file of the functions. -/
def namesakeCatalog : Catalog where
  operations := [("api", {
    url := "/api", functionName := "getApi", returnType := composite "api" })]
  declarations := environment.declarations

theorem visits_namesake : environment.visits [] (namesakeCatalog.roots environment) =
    [composite "api"] := by
  have hroots : namesakeCatalog.roots environment = [composite "api"] := by decide
  have hsuccessors : environment.successors (composite "api") = [] := by decide
  rw [hroots, Environment.visits_cons_of_fresh _ (by decide) (by decide), hsuccessors,
    Environment.visits_nil, Environment.visits_nil]
  rfl

theorem namesake_returns :
    ∃ generated, (namesakeCatalog.generate ["app"]).outcome = .ok generated :=
  Catalog.generateWithin_returns_of_resolvable [] resolvable (by decide) (by decide)

end Sample

namespace Catalog

/-- The second pass finds in place whatever it needs. Wherever the registry is that of the first
pass, building the functions leaves registry and project alone, and each function is the one of its
operation on its own, with nothing to emit to. So the client is the files of the first pass, one for
each name in the order of registration, and then the file of the functions. To move this file to the
end takes no other file away. -/
theorem generate_builds_in_place {catalog : Catalog} {packages extra : List String}
    {generated : Generated} (h : (catalog.generate packages extra).outcome = .ok generated) :
    let env := catalog.environment (.ofPackages packages)
    ∃ (found : Emission) (functions : List RequestFunction),
      catalog.discover env {} = (found, .ok ()) ∧
      (∀ start : Emission, start.registry = found.registry →
        let built := buildFunctions env [] catalog.operations start
        built.1.registry = start.registry ∧ built.1.project = start.project ∧
          built.2 = .ok functions) ∧
      catalog.operations.map (fun entry => (entry.2.requestOnly env).outcome) =
        functions.map .ok ∧
      generated.registry = found.registry ∧
      found.project.fileNames = found.registry.taken.map Emission.fileName ∧
      (∀ file ∈ found.project.files,
        (∃ definition, file.definitions = [definition]) ∧ file.functions = []) ∧
      let last := functionsFile found.registry functions extra
      generated.project.files = found.project.files ++ [last] ∧
      last.name = functionsFileName ∧ last.definitions = [] ∧ last.functions = functions ∧
      last ∉ found.project.files ∧
      (found.project.addFile last).files.erase last = found.project.files := by
  intro env
  obtain ⟨found, functions, hdiscover, hextends, hfunctions, hregistry, hproject⟩ :=
    generateWithin_eq_ok h
  obtain ⟨-, hcovers⟩ := discover_eq_ok hdiscover
  have hnew := functionsFile_not_mem_of_extends hextends found.registry functions extra
  refine ⟨found, functions, hdiscover, ?_, functionsResolved_eq_ok_iff.mp hfunctions, hregistry,
    hextends.fileNames, hextends.definitions, hproject, ?_, definitions_functionsFile _ _ _, ?_,
    hnew, ?_⟩
  · intro start hstart built
    have hsettles : Staged.Settles (Emission.Shows found.registry start.project)
        (buildFunctions env [] catalog.operations) (functionsResolved env catalog.operations) :=
      settles_buildFunctions hcovers []
    obtain ⟨⟨hkept, hfiles⟩, hbuilt⟩ := hsettles start ⟨hstart, rfl⟩
    exact ⟨hkept.trans hstart.symm, hfiles, hbuilt.trans hfunctions⟩
  · rw [functionsFile_eq]
  · rw [functionsFile_eq]
  · rw [Project.addFile, List.erase_append_right _ hnew, List.erase_cons_head, List.append_nil]

theorem generate_builds_in_place_sample :
    ∃ generated, (Sample.namesakeCatalog.generate ["app"]).outcome = .ok generated ∧
      generated.registry.taken = ["api"] ∧
      ∃ declared last, generated.project.files = [declared, last] ∧
        declared.name = "api.ts" ∧ last.name = "api.ts" ∧
        declared.definitions.length = 1 ∧ last.functions.length = 1 := by
  obtain ⟨generated, h⟩ := Sample.namesake_returns
  obtain ⟨found, functions, hdiscover, -, hfunctions, hregistry, hnames, hdefinitions, hproject,
    hname, -, hlast, -, -⟩ := generate_builds_in_place h
  have htaken : found.registry.taken = ["api"] := by
    rw [(discover_eq_ok hdiscover).1.taken]
    exact congrArg _ (congrArg simpleNames Sample.visits_namesake)
  rw [htaken, Project.fileNames] at hnames
  obtain ⟨declared, hdeclared, hdeclaredName⟩ := List.map_eq_singleton_iff.mp hnames
  rw [hdeclared] at hproject hdefinitions
  obtain ⟨⟨definition, hdefinition⟩, -⟩ := hdefinitions declared List.mem_cons_self
  have hcount := congrArg List.length hfunctions
  rw [List.length_map, List.length_map] at hcount
  refine ⟨generated, h, by rw [hregistry, htaken], declared, _, hproject, hdeclaredName, hname, ?_,
    ?_⟩
  · rw [hdefinition]
    rfl
  · rw [hlast, ← hcount]
    rfl

end Catalog

end CatalogClient
