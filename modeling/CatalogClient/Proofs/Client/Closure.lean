/-
# A client is closed

What a generation emits is the closure of the types of the operations under the fields of composite
types: every name comes from a type that is reached, and unless two reached types share a name, no
reached type is left out. The imports of a declaration file stay inside the closure, whether names
are shared or not.
-/

import CatalogClient.Proofs.Client.Passes
import CatalogClient.Proofs.Emission.Closure
import Mathlib.Data.List.Nodup

namespace CatalogClient

variable {env : Environment}

namespace Catalog

/-- Whatever the types of the operations lead to is declared, and of a scanned package if it is
composite. -/
theorem grounded_of_reaches {catalog : Catalog} {type : TypeRef}
    (h : env.Reaches (catalog.roots env) type) :
    type.isDeclared = true ∧ (type.kind = .composite → env.scope.admits type.package = true) := by
  cases h with
  | root member =>
      obtain ⟨outer, -, hfound⟩ := List.mem_flatMap.mp member
      obtain ⟨hdeclared, hadmitted, -⟩ := TypeRef.leads_of_mem_discovered hfound
      exact ⟨hdeclared, hadmitted⟩
  | field reached member =>
      obtain ⟨entry, -, field, -, hfound⟩ := Environment.mem_successors member
      obtain ⟨hdeclared, hadmitted, -⟩ := TypeRef.leads_of_mem_discovered hfound
      exact ⟨hdeclared, hadmitted⟩

theorem WellFormed.of_mem_discoveredTypes {catalog : Catalog} (hwell : catalog.WellFormed)
    {entry : String × Operation} (hentry : entry ∈ catalog.operations) {type : TypeRef}
    (htype : type ∈ entry.2.discoveredTypes) : type.WellFormed := by
  rcases List.mem_cons.mp htype with rfl | hmem
  · exact hwell.returnTypes entry hentry
  · obtain ⟨parameter, hparameter, rfl⟩ := List.mem_map.mp hmem
    exact hwell.parameters entry hentry parameter (List.mem_filter.mp hparameter).1

/-- Whatever the types of the operations lead to is named, if the catalog is well-formed. -/
theorem WellFormed.hasName_of_reaches {catalog : Catalog} (hwell : catalog.WellFormed)
    {scope : Scope} {type : TypeRef}
    (h : (catalog.environment scope).Reaches (catalog.roots (catalog.environment scope)) type) :
    type.hasName = true := by
  cases h with
  | root member =>
      obtain ⟨outer, houter, hfound⟩ := List.mem_flatMap.mp member
      obtain ⟨entry, hentry, htype⟩ := List.mem_flatMap.mp houter
      obtain ⟨-, -, hname⟩ := TypeRef.leads_of_mem_discovered hfound
      exact hname (hwell.of_mem_discoveredTypes hentry htype)
  | field reached member =>
      obtain ⟨entry, hentry, field, hfield, hfound⟩ := Environment.mem_successors member
      obtain ⟨-, -, hname⟩ := TypeRef.leads_of_mem_discovered hfound
      exact hname (hwell.fields entry hentry field hfield)

/-- Unless reached types share names, every reached type of a well-formed catalog is visited. -/
theorem WellFormed.exists_visited {catalog : Catalog} (hwell : catalog.WellFormed) {scope : Scope}
    (hunique : (catalog.environment scope).Unambiguous
      (catalog.roots (catalog.environment scope))) {type : TypeRef}
    (h : (catalog.environment scope).Reaches (catalog.roots (catalog.environment scope)) type) :
    ∃ visited ∈ (catalog.environment scope).visits [] (catalog.roots (catalog.environment scope)),
      visited.Alike type :=
  Environment.exists_visited_of_reaches (fun _ hother =>
    ⟨(grounded_of_reaches hother).1, hwell.hasName_of_reaches hother⟩) hunique h

end Catalog

/-- The files of a project that declare a type. -/
def Project.declarationFiles (project : Project) : List SourceFile :=
  project.files.filter fun file => !file.definitions.isEmpty

/-- Among files of different names there is exactly one of each name. -/
theorem filter_name_eq_singleton {files : List SourceFile}
    (hnodup : (files.map SourceFile.name).Nodup) {file : SourceFile} (hmem : file ∈ files) :
    files.filter (fun other => decide (other.name = file.name)) = [file] := by
  induction files with
  | nil => cases hmem
  | cons first rest ih =>
      obtain ⟨hfirst, hrest⟩ := List.nodup_cons.mp hnodup
      rcases List.mem_cons.mp hmem with rfl | hmem
      · rw [List.filter_cons_of_pos (by simp), List.filter_eq_nil_iff.mpr]
        intro other hother hsame
        exact hfirst (List.mem_map.mpr ⟨other, hother, by simpa using hsame⟩)
      · have hother : first.name ≠ file.name := by
          intro hsame
          exact hfirst (hsame ▸ List.mem_map_of_mem hmem)
        rw [List.filter_cons_of_neg (by simpa using hother), ih hrest hmem]

theorem taken_of_entries {registry : Registry} {visited : List TypeRef}
    (hentries : registry.entries = visited.map TypeRef.entry) :
    registry.taken = simpleNames visited := by
  rw [Registry.taken, Keyed.keys, hentries, List.map_map]
  rfl

/-- The origin of a name is the qualified name of the type that has taken it. -/
theorem originOf_of_mem {registry : Registry} {visited : List TypeRef}
    (hentries : registry.entries = visited.map TypeRef.entry)
    (hnodup : (simpleNames visited).Nodup) {type : TypeRef} (hmem : type ∈ visited) :
    registry.originOf type.simpleName = some type.qualifiedName := by
  obtain ⟨before, after, rfl⟩ := List.append_of_mem hmem
  rw [Registry.originOf, Keyed.get?, List.lookup_eq_some_iff]
  refine ⟨before.map TypeRef.entry, after.map TypeRef.entry, by rw [hentries]; simp [TypeRef.entry],
    fun entry hentry => ?_⟩
  obtain ⟨other, hother, rfl⟩ := List.mem_map.mp hentry
  rw [simpleNames_append] at hnodup
  have hne := (List.nodup_append.mp hnodup).2.2 other.simpleName
    (simpleName_mem_simpleNames hother) type.simpleName (by simp)
  simpa [TypeRef.entry] using hne.symm

namespace Catalog

/-- The types that a generation emits, in the order of their registration. -/
def emittedTypes (catalog : Catalog) (env : Environment) : List TypeRef :=
  env.visits [] (catalog.roots env)

/-- The files that are rendered for types are those that declare a type. -/
theorem declarationFiles_of_rendered {types : List TypeRef} {files : List SourceFile}
    (hrender : types.map (TypeRef.sourceFile env) = files.map .ok) {project : Project}
    {last : SourceFile} (hfiles : project.files = files ++ [last]) (hlast : last.definitions = []) :
    project.declarationFiles = files := by
  have hdeclares : files.filter (fun file => !file.definitions.isEmpty) = files := by
    apply List.filter_eq_self.mpr
    intro file hfile
    obtain ⟨type, -, hfile⟩ := TypeRef.exists_of_rendered hrender hfile
    have hdefinitions := (TypeRef.names_of_sourceFile hfile).2
    cases hempty : file.definitions with
    | nil => simp [hempty] at hdefinitions
    | cons definition rest => rfl
  rw [Project.declarationFiles, hfiles, List.filter_append,
    List.filter_cons_of_neg (by simp [hlast])]
  simpa using hdeclares

/-- A generation that returns has registered the emitted types and nothing else, and its declaration
files are theirs. -/
theorem emitted_of_generate {catalog : Catalog} {scope : Scope} {extra : List String}
    {generated : Generated} (h : (catalog.generateWithin scope extra).outcome = .ok generated) :
    generated.registry.entries =
        (catalog.emittedTypes (catalog.environment scope)).map TypeRef.entry ∧
      (catalog.emittedTypes (catalog.environment scope)).map
        (TypeRef.sourceFile (catalog.environment scope)) =
          generated.project.declarationFiles.map .ok := by
  obtain ⟨found, functions, -, hextends, -, hregistry, hproject⟩ := generateWithin_eq_ok h
  obtain ⟨files, hfiles, hrender⟩ := hextends.files
  refine ⟨by rw [hregistry, hextends.entries]; rfl, ?_⟩
  rw [declarationFiles_of_rendered hrender (by rw [hproject, hfiles]; rfl)
    (definitions_functionsFile _ _ _)]
  exact hrender

/-- Neither the registered names nor the declaration files of a generation repeat. -/
theorem nodup_of_generate {catalog : Catalog} {scope : Scope} {extra : List String}
    {generated : Generated} (h : (catalog.generateWithin scope extra).outcome = .ok generated) :
    generated.registry.taken.Nodup ∧ generated.project.declarationFiles.Nodup := by
  obtain ⟨hentries, hrender⟩ := emitted_of_generate h
  have hnodup : (simpleNames (catalog.emittedTypes (catalog.environment scope))).Nodup :=
    Environment.nodup_visits _ List.nodup_nil
  refine ⟨by rwa [taken_of_entries hentries], List.Nodup.of_map SourceFile.name ?_⟩
  rw [TypeRef.fileNames_of_rendered hrender]
  exact nodup_fileNames hnodup

/-- The file of the request functions comes after the declaration files. It imports the registered
names, and its functions are those of the operations. -/
theorem files_of_generate {catalog : Catalog} {scope : Scope} {extra : List String}
    {generated : Generated} (h : (catalog.generateWithin scope extra).outcome = .ok generated) :
    ∃ functions,
      functionsResolved (catalog.environment scope) catalog.operations = .ok functions ∧
        generated.project.files = generated.project.declarationFiles ++
          [functionsFile generated.registry functions extra] := by
  obtain ⟨found, functions, -, hextends, hfunctions, hregistry, hproject⟩ := generateWithin_eq_ok h
  obtain ⟨files, hfiles, hrender⟩ := hextends.files
  refine ⟨functions, hfunctions, ?_⟩
  rw [declarationFiles_of_rendered hrender (by rw [hproject, hfiles]; rfl)
    (definitions_functionsFile _ _ _), hregistry, hproject, hfiles]
  rfl

end Catalog

namespace Sample

/-- A catalog of one operation, which asks for one of two types that refer to each other. -/
def catalog : Catalog where
  operations := [("node", {
    url := "/nodes/\x7bid\x7d"
    functionName := "getNode"
    parameters := [{ name := "id", type := { kind := .string }, source := .path }]
    returnType := composite "Node" })]
  declarations := environment.declarations

theorem generate_returns : ∃ generated, (catalog.generate ["app"]).outcome = .ok generated :=
  Catalog.generateWithin_returns_of_resolvable [] resolvable (by decide) (by decide)

theorem wellFormed : catalog.WellFormed :=
  ⟨by decide, by decide, by decide⟩

/-- The sample has three types, and they have different names. -/
theorem unambiguous_of_roots {roots : List TypeRef}
    (hroots : ∀ root ∈ roots, root ∈ [composite "Node", composite "User", role]) :
    environment.Unambiguous roots := by
  have hreached : ∀ type, environment.Reaches roots type →
      type ∈ [composite "Node", composite "User", role] := by
    intro type h
    exact h.of_closed hroots (by decide)
  have hnames : ∀ type ∈ [composite "Node", composite "User", role],
      ∀ other ∈ [composite "Node", composite "User", role],
        type.simpleName = other.simpleName →
          type.kind = other.kind ∧ type.package = other.package := by
    decide
  intro type other htype hother
  exact hnames type (hreached type htype) other (hreached other hother)

theorem unambiguous : environment.Unambiguous (catalog.roots environment) :=
  unambiguous_of_roots (by decide)

end Sample

namespace Catalog

/-- Generation emits the closure of the types of the operations. Every registered name is that of a
reached type, whose qualified name is its origin, and a composite type is only reached in a scanned
package. Unless reached types share a name, every reached type is registered, and there is exactly
one file that declares it. -/
theorem generate_emits_closure {catalog : Catalog} (hwell : catalog.WellFormed)
    {packages extra : List String} {generated : Generated}
    (h : (catalog.generate packages extra).outcome = .ok generated) :
    let env := catalog.environment (.ofPackages packages)
    let roots := catalog.roots env
    (∀ name ∈ generated.registry.taken, ∃ type, env.Reaches roots type ∧
      type.simpleName = name ∧ type.isDeclared = true ∧
      generated.registry.originOf name = some type.qualifiedName ∧
      (type.kind = .composite → env.scope.admits type.package = true)) ∧
    (env.Unambiguous roots → ∀ type, env.Reaches roots type →
      type.simpleName ∈ generated.registry.taken ∧
      ∃ file, generated.project.declarationFiles.filter
          (fun file => decide (file.name = Emission.fileName type.simpleName)) = [file] ∧
        file.definitions.map TypeDefinition.name = [type.simpleName]) := by
  intro env roots
  obtain ⟨hentries, hrender⟩ := emitted_of_generate h
  have htaken : generated.registry.taken = simpleNames (env.visits [] roots) :=
    taken_of_entries hentries
  have hnodup : (simpleNames (env.visits [] roots)).Nodup :=
    Environment.nodup_visits roots List.nodup_nil
  refine ⟨fun name hname => ?_, fun hunique type hreached => ?_⟩
  · rw [htaken] at hname
    obtain ⟨type, hvisited, rfl⟩ := List.mem_map.mp hname
    have hreached := Environment.reaches_of_mem_visits type hvisited
    obtain ⟨hdeclared, hadmitted⟩ := grounded_of_reaches hreached
    exact ⟨type, hreached, rfl, hdeclared, originOf_of_mem hentries hnodup hvisited, hadmitted⟩
  · have hname : type.simpleName ∈ simpleNames (env.visits [] roots) := by
      refine Environment.mem_names_of_reaches (fun other hother => ?_) hunique hreached
      exact ⟨(grounded_of_reaches hother).1, hwell.hasName_of_reaches hother⟩
    refine ⟨htaken ▸ hname, ?_⟩
    obtain ⟨file, hfile, hfileName, hdefinitions⟩ := TypeRef.exists_file_of_rendered hrender hname
    have hnames : (generated.project.declarationFiles.map SourceFile.name).Nodup := by
      rw [TypeRef.fileNames_of_rendered hrender]
      exact nodup_fileNames hnodup
    refine ⟨file, ?_, hdefinitions⟩
    rw [← hfileName]
    exact filter_name_eq_singleton hnames hfile

theorem generate_emits_closure_sample :
    let env := Sample.catalog.environment (.ofPackages ["app"])
    let roots := Sample.catalog.roots env
    Sample.catalog.WellFormed ∧ env.Unambiguous roots ∧
    ∃ generated, (Sample.catalog.generate ["app"]).outcome = .ok generated ∧
      ∀ type, env.Reaches roots type → type.simpleName ∈ generated.registry.taken := by
  intro env roots
  obtain ⟨generated, h⟩ := Sample.generate_returns
  obtain ⟨-, hcomplete⟩ := generate_emits_closure Sample.wellFormed h
  refine ⟨Sample.wellFormed, Sample.unambiguous, generated, h, fun type hreached => ?_⟩
  exact (hcomplete Sample.unambiguous type hreached).1

/-- No import of a declaration file dangles. The lines do not repeat, none is that of the file's own
type, and each names a registered type that another declaration file declares. -/
theorem generate_resolves_imports {catalog : Catalog} {packages extra : List String}
    {generated : Generated} (h : (catalog.generate packages extra).outcome = .ok generated) :
    ∀ file ∈ generated.project.declarationFiles, ∃ owner ∈ generated.registry.taken,
      file.name = Emission.fileName owner ∧ file.imports.Nodup ∧
      ∀ line ∈ file.imports, ∃ name ∈ generated.registry.taken,
        name ≠ owner ∧ line = Emission.importLine name ∧
        ∃ imported ∈ generated.project.declarationFiles,
          imported.name = Emission.fileName name ∧
          imported.definitions.map TypeDefinition.name = [name] := by
  intro file hfile
  obtain ⟨hentries, hrender⟩ := emitted_of_generate h
  rw [taken_of_entries hentries]
  obtain ⟨type, hvisited, hsource⟩ := TypeRef.exists_of_rendered hrender hfile
  have hdeclared := Environment.isDeclared_of_mem_visits type hvisited
  obtain ⟨hnodup, himports⟩ := TypeRef.imports_of_sourceFile hdeclared hsource
  refine ⟨type.simpleName, simpleName_mem_simpleNames hvisited,
    (TypeRef.names_of_sourceFile hsource).1, hnodup, fun line hline => ?_⟩
  obtain ⟨found, hfound, hfoundDeclared, hforeign, rfl⟩ := himports line hline
  have hname := Environment.mem_names_of_successors type hvisited found hfound hfoundDeclared
  exact ⟨found.simpleName, hname, hforeign, rfl, TypeRef.exists_file_of_rendered hrender hname⟩

theorem generate_resolves_imports_sample :
    ∃ generated, (Sample.catalog.generate ["app"]).outcome = .ok generated ∧
      ∀ file ∈ generated.project.declarationFiles, ∃ owner ∈ generated.registry.taken,
        file.name = Emission.fileName owner ∧ Emission.importLine owner ∉ file.imports := by
  obtain ⟨generated, h⟩ := Sample.generate_returns
  refine ⟨generated, h, fun file hfile => ?_⟩
  obtain ⟨owner, howner, hname, -, himports⟩ := generate_resolves_imports h file hfile
  refine ⟨owner, howner, hname, fun hline => ?_⟩
  obtain ⟨name, -, hother, hsame, -⟩ := himports _ hline
  exact hother (importLine_inj.mp hsame).symm

end Catalog

end CatalogClient
