/-
# The order of a catalog

Operations and declarations stand in some order, in which the walk meets the types. Unless types
that it meets share names, the order has no part in what is generated, other than in the order of
the files and of the functions: the closure of the types is the same, and the file of a type depends
on the declarations alone.
-/

import CatalogClient.Proofs.Catalog.Tables
import CatalogClient.Proofs.Client.Binding
import CatalogClient.Proofs.Client.Closure
import CatalogClient.Proofs.Emission.Agreement
import CatalogClient.Proofs.Emission.Registry

namespace CatalogClient

/-- One catalog in two orders, whose declarations stand under their qualified names. -/
structure Catalog.Rearranges (catalog other : Catalog) : Prop where
  operations : catalog.operations.Perm other.operations
  declarations : catalog.declarations.Perm other.declarations
  consistent : catalog.declarations.Consistent

/-- The request function of an operation only depends on what is visible. -/
theorem Operation.requestResolved_congr {env env' : Environment} (h : env.Agrees env')
    (operation : Operation) : operation.requestResolved env = operation.requestResolved env' := by
  unfold requestResolved
  simp only [TypeRef.resolve_congr h]

theorem TypeRef.Alike.entry {type other : TypeRef} (h : type.Alike other) :
    type.entry = other.entry := by
  rw [TypeRef.entry, TypeRef.entry, h.simpleName, h.qualifiedName]

namespace Catalog

variable {catalog other : Catalog}

namespace Rearranges

theorem symm (h : catalog.Rearranges other) : other.Rearranges catalog :=
  ⟨h.operations.symm, h.declarations.symm, h.consistent.perm h.declarations⟩

theorem agrees (h : catalog.Rearranges other) (scope : Scope) :
    (catalog.environment scope).Agrees (other.environment scope) where
  scope := rfl
  visible type := congrArg _ (h.consistent.find?_perm h.declarations type)

theorem wellFormed (h : catalog.Rearranges other) (hwell : catalog.WellFormed) :
    other.WellFormed where
  returnTypes entry hentry := hwell.returnTypes entry (h.operations.mem_iff.mpr hentry)
  parameters entry hentry := hwell.parameters entry (h.operations.mem_iff.mpr hentry)
  fields entry hentry := hwell.fields entry (h.declarations.mem_iff.mpr hentry)

variable {env env' : Environment}

theorem mem_roots (h : catalog.Rearranges other) (hagrees : env.Agrees env') {type : TypeRef}
    (hroot : type ∈ catalog.roots env) : type ∈ other.roots env' := by
  obtain ⟨outer, houter, hfound⟩ := List.mem_flatMap.mp hroot
  obtain ⟨entry, hentry, htype⟩ := List.mem_flatMap.mp houter
  rw [TypeRef.discovered_congr hagrees] at hfound
  have hentry' := h.operations.mem_iff.mp hentry
  exact List.mem_flatMap.mpr ⟨outer, List.mem_flatMap.mpr ⟨entry, hentry', htype⟩, hfound⟩

/-- The operations lead to the same types in both orders. -/
theorem reaches (h : catalog.Rearranges other) (hagrees : env.Agrees env') {type : TypeRef}
    (hreached : env.Reaches (catalog.roots env) type) : env'.Reaches (other.roots env') type :=
  (hagrees.reaches hreached).trans fun _ hroot => .root (h.mem_roots hagrees hroot)

theorem unambiguous (h : catalog.Rearranges other) (hagrees : env.Agrees env')
    (hunique : env.Unambiguous (catalog.roots env)) : env'.Unambiguous (other.roots env') :=
  fun _ _ htype hother => hunique _ _ (h.symm.reaches hagrees.symm htype)
    (h.symm.reaches hagrees.symm hother)

end Rearranges

/-- Of a registry, the file of the functions only shows the names. -/
theorem functionsFile_of_names_eq {registry registry' : Registry}
    (hnames : registry.names = registry'.names) (functions : List RequestFunction)
    (extra : List String) :
    functionsFile registry functions extra =
      { functionsFile registry' [] extra with functions } := by
  rw [functionsFile_eq, functionsFile_eq, hnames]

variable {scope : Scope} {extra : List String} {generated generated' : Generated}

/-- The first pass of a generation that returns has succeeded. -/
theorem discover_of_generate
    (hok : (catalog.generateWithin scope extra).outcome = .ok generated) :
    ∃ found, catalog.discover (catalog.environment scope) {} = (found, .ok ()) := by
  obtain ⟨found, -, -, hdiscover, -⟩ := passes_of_generate hok
  exact ⟨found, hdiscover⟩

/-- If the functions of some operations can be built, then they can be built in another order. -/
theorem functionsResolved_of_perm {env env' : Environment} (hagrees : env.Agrees env')
    {operations operations' : Keyed Operation} (hperm : operations.Perm operations')
    {functions : List RequestFunction}
    (hfunctions : functionsResolved env operations = .ok functions) :
    ∃ functions', functionsResolved env' operations' = .ok functions' := by
  refine exists_ok_mapM fun entry hentry => ?_
  have hmem : entry.2.requestResolved env ∈ functions.map Except.ok := by
    rw [← mapM_eq_ok_iff.mp hfunctions]
    exact List.mem_map_of_mem (hperm.mem_iff.mpr hentry)
  obtain ⟨function, -, hfunction⟩ := List.mem_map.mp hmem
  exact ⟨function, by rw [← Operation.requestResolved_congr hagrees, hfunction]⟩

section Unambiguous

variable (hwell : catalog.WellFormed)
  (hunique : (catalog.environment scope).Unambiguous (catalog.roots (catalog.environment scope)))
  (hok : (catalog.generateWithin scope extra).outcome = .ok generated)
include hwell hunique hok

/-- Once a generation has returned, the file of every reached type is known to be rendered. -/
theorem rendered_of_generate {type : TypeRef} (hreached : (catalog.environment scope).Reaches
      (catalog.roots (catalog.environment scope)) type) :
    ∃ file, type.sourceFile (catalog.environment scope) = .ok file := by
  obtain ⟨visited, hvisited, halike⟩ := hwell.exists_visited hunique hreached
  obtain ⟨file, -, hfile⟩ := TypeRef.exists_rendered (emitted_of_generate hok).2 hvisited
  exact ⟨file, halike.sourceFile.symm.trans hfile⟩

/-- If a generation returns, then it returns in another order as well. -/
theorem returns_of_rearranges (h : catalog.Rearranges other) :
    ∃ generated', (other.generateWithin scope extra).outcome = .ok generated' := by
  have hagrees := h.agrees scope
  obtain ⟨found, hdiscover⟩ := discover_of_generate hok
  obtain ⟨functions, hfunctions, -⟩ := files_of_generate hok
  have hsound : (other.environment scope).Sound
      ((other.environment scope).Reaches (other.roots (other.environment scope))) := by
    apply Environment.sound_of_rendered
    intro type hreached
    rw [← TypeRef.sourceFile_congr hagrees]
    exact rendered_of_generate hwell hunique hok (h.symm.reaches hagrees.symm hreached)
  have hresolve : ∀ entry ∈ other.operations, ∀ type ∈ entry.2.discoveredTypes,
      (type.resolve (other.environment scope)).outcome.isOk = true := by
    intro entry hentry type htype
    obtain ⟨target, htarget⟩ :=
      resolves_of_discover hdiscover entry (h.operations.mem_iff.mpr hentry) type htype
    rw [← TypeRef.resolve_congr hagrees, htarget]
    rfl
  obtain ⟨found', hdiscover'⟩ := discover_succeeds hsound hresolve fun _ hroot => .root hroot
  obtain ⟨functions', hfunctions'⟩ := functionsResolved_of_perm hagrees h.operations hfunctions
  exact generateWithin_returns extra hdiscover' (by rw [hfunctions']; rfl)

/-- What is registered in another order is registered in the first one, and every declaration file
of the other is a declaration file of the first. -/
theorem subset_of_rearranges (h : catalog.Rearranges other)
    (hok' : (other.generateWithin scope extra).outcome = .ok generated') :
    generated'.registry.entries ⊆ generated.registry.entries ∧
      generated'.project.declarationFiles ⊆ generated.project.declarationFiles := by
  have hagrees := h.agrees scope
  obtain ⟨hentries, hrender⟩ := emitted_of_generate hok
  obtain ⟨hentries', hrender'⟩ := emitted_of_generate hok'
  have hvisits : ∀ type ∈ other.emittedTypes (other.environment scope),
      ∃ visited ∈ catalog.emittedTypes (catalog.environment scope), visited.Alike type := by
    intro type htype
    have hreached := Environment.reaches_of_mem_visits type htype
    exact hwell.exists_visited hunique (h.symm.reaches hagrees.symm hreached)
  constructor
  · intro entry hentry
    rw [hentries'] at hentry
    obtain ⟨type, htype, rfl⟩ := List.mem_map.mp hentry
    obtain ⟨visited, hvisited, halike⟩ := hvisits type htype
    rw [hentries]
    exact List.mem_map.mpr ⟨visited, hvisited, halike.entry⟩
  · intro file hfile
    obtain ⟨type, htype, hsource⟩ := TypeRef.exists_of_rendered hrender' hfile
    obtain ⟨visited, hvisited, halike⟩ := hvisits type htype
    rw [← TypeRef.sourceFile_congr hagrees, ← halike.sourceFile] at hsource
    obtain ⟨file', hfile', hsource'⟩ := TypeRef.exists_rendered hrender hvisited
    rwa [Except.ok.inj (hsource.symm.trans hsource')]

/-- In two orders of a catalog the same types are registered, and the same declaration files are
made. -/
theorem perm_of_rearranges (h : catalog.Rearranges other)
    (hok' : (other.generateWithin scope extra).outcome = .ok generated') :
    generated.registry.entries.Perm generated'.registry.entries ∧
      generated.project.declarationFiles.Perm generated'.project.declarationFiles := by
  obtain ⟨hentries, hfiles⟩ := subset_of_rearranges hwell hunique hok h hok'
  obtain ⟨hentries', hfiles'⟩ := subset_of_rearranges (h.wellFormed hwell)
    (h.unambiguous (h.agrees scope) hunique) hok' h.symm hok
  obtain ⟨htaken, hnodup⟩ := nodup_of_generate hok
  obtain ⟨htaken', hnodup'⟩ := nodup_of_generate hok'
  constructor
  · apply (List.perm_ext_iff_of_nodup (List.Nodup.of_map Prod.fst htaken)
      (List.Nodup.of_map Prod.fst htaken')).mpr
    intro entry
    exact ⟨fun hmem => hentries' hmem, fun hmem => hentries hmem⟩
  · apply (List.perm_ext_iff_of_nodup hnodup hnodup').mpr
    intro file
    exact ⟨fun hmem => hfiles' hmem, fun hmem => hfiles hmem⟩

end Unambiguous

end Catalog

namespace Sample

/-- A catalog of two operations, which ask for types that refer to each other. -/
def pairCatalog : Catalog where
  operations := [
    ("nodes", {
      url := "/nodes", functionName := "getNodes",
      returnType := { kind := .array, component := some (composite "Node") } }),
    ("user", { url := "/user", functionName := "getUser", returnType := composite "User" })]
  declarations := environment.declarations

/-- The same catalog in the other order. -/
def reversedCatalog : Catalog where
  operations := pairCatalog.operations.reverse
  declarations := pairCatalog.declarations.reverse

theorem rearranges : pairCatalog.Rearranges reversedCatalog where
  operations := (List.reverse_perm _).symm
  declarations := (List.reverse_perm _).symm
  consistent := ⟨by decide, by decide⟩

end Sample

namespace Catalog

/-- The order of a catalog has no part in what is generated, unless types that are reached share
names. In every order generation returns, or in none. The same names are registered with the same
origins, the declaration files are the same but for their order, and so is the file of the
functions but for the functions, which are those of the operations in their order. -/
theorem generate_of_rearranges {catalog other : Catalog} (h : catalog.Rearranges other)
    (hwell : catalog.WellFormed) {packages : List String} (extra : List String)
    (hunique : (catalog.environment (.ofPackages packages)).Unambiguous
      (catalog.roots (catalog.environment (.ofPackages packages)))) :
    let env := catalog.environment (.ofPackages packages)
    ((∃ generated, (catalog.generate packages extra).outcome = .ok generated) ↔
      ∃ generated', (other.generate packages extra).outcome = .ok generated') ∧
    ∀ generated generated', (catalog.generate packages extra).outcome = .ok generated →
      (other.generate packages extra).outcome = .ok generated' →
      generated.registry.names = generated'.registry.names ∧
      (∀ name, generated.registry.originOf name = generated'.registry.originOf name) ∧
      generated.project.declarationFiles.Perm generated'.project.declarationFiles ∧
      ∃ (file : SourceFile) (functions functions' : List RequestFunction),
        file.name = functionsFileName ∧
        generated.project.files =
          generated.project.declarationFiles ++ [{ file with functions := functions }] ∧
        generated'.project.files =
          generated'.project.declarationFiles ++ [{ file with functions := functions' }] ∧
        catalog.operations.map (fun entry => entry.2.requestResolved env) =
          functions.map .ok ∧
        other.operations.map (fun entry => entry.2.requestResolved env) =
          functions'.map .ok := by
  intro env
  have hagrees := h.agrees (.ofPackages packages)
  refine ⟨⟨?_, ?_⟩, fun generated generated' hok hok' => ?_⟩
  · rintro ⟨generated, hok⟩
    exact returns_of_rearranges hwell hunique hok h
  · rintro ⟨generated', hok'⟩
    exact returns_of_rearranges (h.wellFormed hwell) (h.unambiguous hagrees hunique) hok' h.symm
  · obtain ⟨hentries, hfiles⟩ := perm_of_rearranges hwell hunique hok h hok'
    have hnames : generated.registry.names = generated'.registry.names :=
      Registry.names_eq_of_perm (hentries.map Prod.fst)
    obtain ⟨functions, hfunctions, hproject⟩ := files_of_generate hok
    obtain ⟨functions', hfunctions', hproject'⟩ := files_of_generate hok'
    rw [functionsFile_of_names_eq hnames] at hproject
    rw [functionsFile_of_names_eq rfl] at hproject'
    refine ⟨hnames, Keyed.get?_perm hentries (nodup_of_generate hok).1, hfiles,
      functionsFile generated'.registry [] extra, functions, functions', ?_, hproject, hproject',
      mapM_eq_ok_iff.mp hfunctions, ?_⟩
    · rw [functionsFile_eq]
    · rw [← mapM_eq_ok_iff.mp hfunctions']
      exact List.map_congr_left fun entry _ => Operation.requestResolved_congr hagrees entry.2

theorem generate_of_rearranges_sample :
    let env := Sample.pairCatalog.environment (.ofPackages ["app"])
    Sample.pairCatalog.Rearranges Sample.reversedCatalog ∧ Sample.pairCatalog.WellFormed ∧
    env.Unambiguous (Sample.pairCatalog.roots env) ∧
    ∃ generated generated', (Sample.pairCatalog.generate ["app"]).outcome = .ok generated ∧
      (Sample.reversedCatalog.generate ["app"]).outcome = .ok generated' ∧
      generated.project.declarationFiles.Perm generated'.project.declarationFiles := by
  intro env
  have hwell : Sample.pairCatalog.WellFormed := ⟨by decide, by decide, by decide⟩
  have hunique : env.Unambiguous (Sample.pairCatalog.roots env) :=
    Sample.unambiguous_of_roots (by decide)
  obtain ⟨hreturns, hsame⟩ := generate_of_rearranges Sample.rearranges hwell [] hunique
  obtain ⟨found, hdiscover⟩ : ∃ found, Sample.pairCatalog.discover env {} = (found, .ok ()) :=
    discover_succeeds Sample.resolvable.sound (by decide) fun _ _ => trivial
  obtain ⟨generated, hok⟩ := generateWithin_returns [] hdiscover (by decide)
  obtain ⟨generated', hok'⟩ := hreturns.mp ⟨generated, hok⟩
  exact ⟨Sample.rearranges, hwell, hunique, generated, generated', hok, hok',
    (hsame generated generated' hok hok').2.2.1⟩

end Catalog

end CatalogClient
