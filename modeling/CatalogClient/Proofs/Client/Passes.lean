/-
# The two passes of a generation

The first pass maps the types of all operations. The second pass maps some of them once more, when
every name that they lead to is taken already: it leaves registry and project alone, and the
functions that it builds are those of the types on their own.
-/

import CatalogClient.Client.Generate
import CatalogClient.Proofs.Emission.Run
import CatalogClient.Proofs.Staged

namespace CatalogClient

variable {env : Environment}

namespace Emission

/-- A type whose name is taken, or that is not declared, is emitted without any effect on registry
and project. -/
theorem Emits.quiet {start next : Emission} {type : TypeRef}
    {outcome : Except Rejection (Option String)} (h : Emits env start type next outcome)
    (htaken : type.isDeclared = true → type.simpleName ∈ start.registry.taken) :
    next.registry = start.registry ∧ next.project = start.project ∧ outcome = .ok none := by
  have hclosed : type.isDeclared = true → start.opened? type = none :=
    fun hdeclared => opened?_eq_none_iff.mpr (htaken hdeclared)
  cases h with
  | passed plain => exact ⟨rfl, rfl, rfl⟩
  | taken declared closed =>
      exact ⟨registry_noteCollision start type, project_noteCollision start type, rfl⟩
  | enumeration kind opened =>
      cases opened.symm.trans (hclosed (by simp [TypeRef.isDeclared, kind]))
  | undeclared kind opened absent =>
      cases opened.symm.trans (hclosed (by simp [TypeRef.isDeclared, kind]))
  | unfinished kind opened found members =>
      cases opened.symm.trans (hclosed (by simp [TypeRef.isDeclared, kind]))
  | interface kind opened found members =>
      cases opened.symm.trans (hclosed (by simp [TypeRef.isDeclared, kind]))

theorem EmitsAll.quiet {types : List TypeRef} :
    ∀ {start next : Emission} {outcome : Except Rejection Unit},
      EmitsAll env start types next outcome →
      (∀ type ∈ types, type.isDeclared = true → type.simpleName ∈ start.registry.taken) →
      next.registry = start.registry ∧ next.project = start.project ∧ outcome = .ok () := by
  induction types with
  | nil =>
      intro start next outcome h htaken
      cases h
      exact ⟨rfl, rfl, rfl⟩
  | cons type rest ih =>
      intro start next outcome h htaken
      obtain ⟨htype, hrest⟩ := List.forall_mem_cons.mp htaken
      cases h with
      | stop first =>
          obtain ⟨-, -, hok⟩ := first.quiet htype
          cases hok
      | cons first others =>
          obtain ⟨hregistry, hproject, -⟩ := first.quiet htype
          rw [← hregistry] at hrest
          obtain ⟨hregistry', hproject', hok⟩ := ih others hrest
          exact ⟨hregistry'.trans hregistry, hproject'.trans hproject, hok⟩

/-- The states with a given registry and a given project, whatever their records. -/
def Shows (registry : Registry) (project : Project) (emission : Emission) : Prop :=
  emission.registry = registry ∧ emission.project = project

/-- Whether all names that have to be generated for a type are taken. -/
def Covers (env : Environment) (registry : Registry) (type : TypeRef) : Prop :=
  ∀ found ∈ type.discovered env, found.isDeclared = true → found.simpleName ∈ registry.taken

/-- A type whose names are all taken is mapped as it is resolved. -/
theorem settles_map {registry : Registry} {project : Project} {type : TypeRef}
    (hcovers : Covers env registry type) :
    Staged.Settles (Shows registry project) (Emitting.map env type) (type.resolve env).outcome := by
  rintro start ⟨rfl, rfl⟩
  rcases hmap : Emitting.map env type start with ⟨next, outcome⟩
  rcases Emitting.map_cases hmap with
    ⟨rejection, hresolve, rfl, rfl⟩ | ⟨target, below, hresolve, rfl, hemits⟩
  · exact ⟨⟨rfl, rfl⟩, hresolve.symm⟩
  · unfold Covers at hcovers
    rw [TypeRef.discovered_of_resolve hresolve] at hcovers
    obtain ⟨hregistry, hproject, rfl⟩ := hemits.quiet hcovers
    exact ⟨⟨hregistry, hproject⟩, hresolve.symm⟩

end Emission

namespace Operation

/-- The types of the parameters other than page settings are mapped in the first pass. -/
theorem type_mem_discoveredTypes {operation : Operation} {parameter : Parameter}
    (hmem : parameter ∈ operation.parameters) (hsource : parameter.source ≠ .paged) :
    parameter.type ∈ operation.discoveredTypes := by
  refine List.mem_cons_of_mem _ (List.mem_map_of_mem ?_)
  exact List.mem_filter.mpr ⟨hmem, by simpa using hsource⟩

/-- The parameter that binds a placeholder has its type mapped in the first pass. -/
theorem type_mem_of_pathParameter? {operation : Operation} {placeholder : String}
    {parameter : Parameter} (h : operation.pathParameter? placeholder = some parameter) :
    parameter.type ∈ operation.discoveredTypes := by
  refine type_mem_discoveredTypes (List.mem_of_find?_eq_some h) fun hpaged => ?_
  have hpath := List.find?_some h
  simp [hpaged] at hpath

theorem type_mem_of_bodyParameter? {operation : Operation} {parameter : Parameter}
    (h : operation.bodyParameter? = some parameter) :
    parameter.type ∈ operation.discoveredTypes := by
  refine type_mem_discoveredTypes (List.mem_of_find?_eq_some h) fun hpaged => ?_
  have hbody := List.find?_some h
  simp [hpaged] at hbody

/-- The request function of an operation whose types are resolved and not emitted. -/
def requestResolved (operation : Operation) (env : Environment) :
    Except BuildFault RequestFunction :=
  operation.request fun type => (type.resolve env).outcome.mapError .rejected

section Settling

variable {σ : Type} {holds : σ → Prop} {operation : Operation}
  {map : TypeRef → Staged σ BuildFault Target} {resolve : TypeRef → Except BuildFault Target}

theorem settles_pathArguments
    (hmap : ∀ type ∈ operation.discoveredTypes, Staged.Settles holds (map type) (resolve type))
    (placeholders : List String) :
    Staged.Settles holds (operation.pathArguments map placeholders)
      (operation.pathArguments resolve placeholders) := by
  induction placeholders with
  | nil => exact .pure []
  | cons placeholder rest ih =>
      unfold pathArguments
      cases hfound : operation.pathParameter? placeholder with
      | none => exact .throw _
      | some parameter =>
          have htype := type_mem_of_pathParameter? hfound
          exact .bind (hmap _ htype) fun target => .bind ih fun others => .pure _

theorem settles_bodyArgument
    (hmap : ∀ type ∈ operation.discoveredTypes, Staged.Settles holds (map type) (resolve type)) :
    Staged.Settles holds (operation.bodyArgument map) (operation.bodyArgument resolve) := by
  unfold bodyArgument
  cases hfound : operation.bodyParameter? with
  | none => exact .pure none
  | some parameter =>
      exact .bind (hmap _ (type_mem_of_bodyParameter? hfound)) fun target => .pure _

/-- A request function settles if the mapping of the types does that the first pass has met. -/
theorem settles_request
    (hmap : ∀ type ∈ operation.discoveredTypes, Staged.Settles holds (map type) (resolve type)) :
    Staged.Settles holds (operation.request map) (operation.request resolve) := by
  unfold request
  apply Staged.Settles.bind (settles_pathArguments hmap _)
  intro arguments
  apply Staged.Settles.bind (settles_bodyArgument hmap)
  intro body
  exact .bind (hmap _ List.mem_cons_self) fun response => .pure _

end Settling

section Effects

variable {σ : Type} {R : σ → σ → Prop} {operation : Operation}
  {map : TypeRef → Staged σ BuildFault Target}

theorem effects_pathArguments (hrefl : ∀ state, R state state)
    (htrans : ∀ first middle last, R first middle → R middle last → R first last)
    (hmap : ∀ type ∈ operation.discoveredTypes, Staged.Effects R (map type))
    (placeholders : List String) :
    Staged.Effects R (operation.pathArguments map placeholders) := by
  induction placeholders with
  | nil => exact .pure hrefl []
  | cons placeholder rest ih =>
      unfold pathArguments
      cases hfound : operation.pathParameter? placeholder with
      | none => exact .throw hrefl _
      | some parameter =>
          apply Staged.Effects.bind htrans (hmap _ (type_mem_of_pathParameter? hfound))
          intro target
          exact .bind htrans ih fun others => .pure hrefl _

theorem effects_bodyArgument (hrefl : ∀ state, R state state)
    (htrans : ∀ first middle last, R first middle → R middle last → R first last)
    (hmap : ∀ type ∈ operation.discoveredTypes, Staged.Effects R (map type)) :
    Staged.Effects R (operation.bodyArgument map) := by
  unfold bodyArgument
  cases hfound : operation.bodyParameter? with
  | none => exact .pure hrefl none
  | some parameter =>
      apply Staged.Effects.bind htrans (hmap _ (type_mem_of_bodyParameter? hfound))
      exact fun target => .pure hrefl _

/-- To build a request function has no other effects than the mapping of the types that the first
pass has met. -/
theorem effects_request (hrefl : ∀ state, R state state)
    (htrans : ∀ first middle last, R first middle → R middle last → R first last)
    (hmap : ∀ type ∈ operation.discoveredTypes, Staged.Effects R (map type)) :
    Staged.Effects R (operation.request map) := by
  unfold request
  apply Staged.Effects.bind htrans (effects_pathArguments hrefl htrans hmap _)
  intro arguments
  apply Staged.Effects.bind htrans (effects_bodyArgument hrefl htrans hmap)
  intro body
  apply Staged.Effects.bind htrans (hmap _ List.mem_cons_self)
  exact fun response => .pure hrefl _

end Effects

end Operation

namespace Catalog

/-- The request functions of some operations whose types are resolved and not emitted. -/
def functionsResolved (env : Environment) (operations : Keyed Operation) :
    Except BuildFault (List RequestFunction) :=
  operations.mapM fun entry => entry.2.requestResolved env

/-- The second pass leaves registry and project alone once all names are taken, and builds the
functions of the resolved types. -/
theorem settles_buildFunctions {registry : Registry} {project : Project}
    {operations : Keyed Operation}
    (hcovers : ∀ entry ∈ operations, ∀ type ∈ entry.2.discoveredTypes,
      Emission.Covers env registry type) (earlier : Keyed Operation) :
    Staged.Settles (Emission.Shows registry project) (buildFunctions env earlier operations)
      (functionsResolved env operations) := by
  unfold functionsResolved
  induction operations generalizing earlier with
  | nil => exact .pure []
  | cons entry rest ih =>
      obtain ⟨hentry, hrest⟩ := List.forall_mem_cons.mp hcovers
      obtain ⟨key, operation⟩ := entry
      rw [List.mapM_cons]
      unfold buildFunctions
      have hnote : ∀ severity text, Staged.Settles (Emission.Shows registry project)
          (Emitting.note severity text : Emitting BuildFault Unit) (.ok ()) :=
        fun severity text start hstart => ⟨hstart, rfl⟩
      have hbuild : Staged.Settles (Emission.Shows registry project)
          (do
            let function ← operation.requestEmitting env
            let functions ← buildFunctions env (earlier ++ [(key, operation)]) rest
            pure (function :: functions))
          (do
            let function ← operation.requestResolved env
            let functions ← rest.mapM fun entry => entry.2.requestResolved env
            pure (function :: functions)) := by
        refine .bind (Operation.settles_request fun type htype => ?_) fun function => ?_
        · exact (Emission.settles_map (hentry type htype)).mapError _
        · exact .bind (ih hrest _) fun functions => .pure _
      apply Staged.Settles.after (hnote _ _)
      cases earlier.find? fun entry => decide (entry.2.functionName = operation.functionName) with
      | none => exact hbuild
      | some first => exact .after (hnote _ _) hbuild

/-- The types that the first pass asks to be emitted: those that have to be generated for the types
of the operations. -/
def roots (catalog : Catalog) (env : Environment) : List TypeRef :=
  (catalog.operations.flatMap fun entry => entry.2.discoveredTypes).flatMap
    (TypeRef.discovered env)

/-- The first pass is a run of mappings. -/
theorem mapAll_eq_ok_iff {types : List TypeRef} {start last : Emission} :
    mapAll env types start = (last, .ok ()) ↔
      Emission.Succeeds env start (types.map .map) ∧ start.after env (types.map .map) = last := by
  induction types generalizing start with
  | nil =>
      constructor
      · intro h
        cases h
        exact ⟨trivial, rfl⟩
      · rintro ⟨-, rfl⟩
        rfl
  | cons type rest ih =>
      rcases hmap : Emitting.map env type start with ⟨next, outcome⟩
      have hstep : (EmissionStep.map type).perform env start = (next, outcome.map fun _ => ()) := by
        rw [EmissionStep.perform, hmap]
      unfold mapAll
      rw [List.map_cons, Emission.Succeeds, Emission.after, List.foldl_cons, hstep]
      cases outcome with
      | error rejection =>
          rw [Staged.bind_of_error hmap]
          simp [Except.map]
      | ok target =>
          rw [Staged.bind_of_ok hmap, ih]
          simp [Except.map, Emission.after]

/-- The file of the functions and all that it holds. -/
theorem functionsFile_eq (registry : Registry) (functions : List RequestFunction)
    (extra : List String) :
    functionsFile registry functions extra = {
      name := functionsFileName
      imports := (registry.names.map functionsImportLine).foldl addOnce [functionsHeader]
      functions
      codeBlocks := defaultFunctions ++ extra } := by
  rw [functionsFile, SourceFile.foldl_addCodeBlock, SourceFile.foldl_addImport, List.nil_append]

theorem definitions_functionsFile (registry : Registry) (functions : List RequestFunction)
    (extra : List String) : (functionsFile registry functions extra).definitions = [] := by
  rw [functionsFile_eq]

/-- The first pass extends the empty state by what the search visits, and afterwards all names that
the types of the operations lead to are taken. -/
theorem discover_eq_ok {catalog : Catalog} {found : Emission}
    (h : catalog.discover env {} = (found, .ok ())) :
    Emission.Extends env {} found (env.visits [] (catalog.roots env)) ∧
      ∀ entry ∈ catalog.operations, ∀ type ∈ entry.2.discoveredTypes,
        Emission.Covers env found.registry type := by
  obtain ⟨hsucceeds, rfl⟩ := mapAll_eq_ok_iff.mp h
  have hextends := Emission.extends_after hsucceeds
  have hroots : List.flatMap (EmissionStep.roots env)
      (List.map .map (catalog.operations.flatMap fun entry => entry.2.discoveredTypes)) =
        catalog.roots env := by
    rw [List.flatMap_map]
    rfl
  rw [hroots] at hextends
  refine ⟨hextends, fun entry hentry type htype type' htype' hdeclared => ?_⟩
  rw [hextends.taken]
  refine Environment.mem_names_of_visits _ ?_ hdeclared
  exact List.mem_flatMap.mpr ⟨type, List.mem_flatMap.mpr ⟨entry, hentry, htype⟩, htype'⟩

/-- A generation that returns has gone through both passes and then put the client together. -/
theorem passes_of_generate {catalog : Catalog} {scope : Scope} {extra : List String}
    {generated : Generated} (h : (catalog.generateWithin scope extra).outcome = .ok generated) :
    let env := catalog.environment scope
    ∃ found built functions, catalog.discover env {} = (found, .ok ()) ∧
      buildFunctions env [] catalog.operations found = (built, .ok functions) ∧
      (catalog.assemble extra functions built).2 = .ok generated ∧
      (catalog.generateWithin scope extra).log =
        (catalog.assemble extra functions built).1.log := by
  intro env
  obtain ⟨found, _, hdiscover, hsecond⟩ := Staged.bind_eq_ok_iff.mp (Prod.ext rfl h)
  obtain ⟨built, functions, hbuild, hassemble⟩ := Staged.bind_eq_ok_iff.mp hsecond
  refine ⟨found, built, functions, Staged.mapError_eq_ok_iff.mp hdiscover, hbuild, ?_, ?_⟩
  · exact congrArg Prod.snd hassemble
  · exact (congrArg (fun ended => ended.1.log) hassemble).symm

/-- No file that is rendered for a type is the file of the functions, whatever the type is called:
one defines a type, and the other one does not. -/
theorem functionsFile_not_mem_of_extends {found : Emission} {visited : List TypeRef}
    (h : Emission.Extends env {} found visited) (registry : Registry)
    (functions : List RequestFunction) (extra : List String) :
    functionsFile registry functions extra ∉ found.project.files := by
  intro hmem
  obtain ⟨files, hfiles, hrender⟩ := h.files
  rw [hfiles] at hmem
  obtain ⟨type, -, hfile⟩ := TypeRef.exists_of_rendered hrender hmem
  have hdefinitions := (TypeRef.names_of_sourceFile hfile).2
  rw [definitions_functionsFile] at hdefinitions
  cases hdefinitions

/-- Everything about a generation that returns: the first pass has extended the empty state by what
the search visits, every function was built, and the file of the functions comes last. -/
theorem generateWithin_eq_ok {catalog : Catalog} {scope : Scope} {extra : List String}
    {generated : Generated} (h : (catalog.generateWithin scope extra).outcome = .ok generated) :
    let env := catalog.environment scope
    ∃ found functions, catalog.discover env {} = (found, .ok ()) ∧
      Emission.Extends env {} found (env.visits [] (catalog.roots env)) ∧
      functionsResolved env catalog.operations = .ok functions ∧
      generated.registry = found.registry ∧
      generated.project.files =
        found.project.files ++ [functionsFile found.registry functions extra] := by
  intro env
  obtain ⟨found, built, functions, hdiscover, hbuild, hassemble, -⟩ := passes_of_generate h
  obtain ⟨hextends, hcovers⟩ := discover_eq_ok hdiscover
  obtain ⟨⟨hregistry, hproject⟩, hfunctions⟩ :=
    settles_buildFunctions hcovers [] found ⟨rfl, rfl⟩
  rw [hbuild] at hregistry hproject hfunctions
  obtain rfl := Except.ok.inj hassemble
  refine ⟨found, functions, hdiscover, hextends, hfunctions.symm, hregistry, ?_⟩
  rw [show built.registry = found.registry from hregistry,
    show built.project = found.project from hproject]
  exact Project.moveLast_addFile (functionsFile_not_mem_of_extends hextends _ _ _)

/-- Once the first pass has succeeded, the second one comes to the functions of the resolved
types. -/
theorem buildFunctions_of_discover {catalog : Catalog} {found : Emission}
    (hdiscover : catalog.discover env {} = (found, .ok ())) :
    ∃ built, buildFunctions env [] catalog.operations found =
      (built, functionsResolved env catalog.operations) := by
  obtain ⟨-, hcovers⟩ := discover_eq_ok hdiscover
  obtain ⟨-, hbuild⟩ := settles_buildFunctions hcovers [] found ⟨rfl, rfl⟩
  exact ⟨_, Prod.ext rfl hbuild⟩

/-- A generation returns once the first pass has succeeded and all functions can be built. -/
theorem generateWithin_returns {catalog : Catalog} {scope : Scope} (extra : List String)
    {found : Emission}
    (hdiscover : catalog.discover (catalog.environment scope) {} = (found, .ok ()))
    (hfunctions :
      (functionsResolved (catalog.environment scope) catalog.operations).isOk = true) :
    ∃ generated, (catalog.generateWithin scope extra).outcome = .ok generated := by
  obtain ⟨built, hbuild⟩ := buildFunctions_of_discover hdiscover
  cases hresolved : functionsResolved (catalog.environment scope) catalog.operations with
  | error fault =>
      rw [hresolved] at hfunctions
      cases hfunctions
  | ok functions =>
      rw [hresolved] at hbuild
      unfold generateWithin generating
      rw [Staged.bind_of_ok (Staged.mapError_eq_ok_iff.mpr hdiscover), Staged.bind_of_ok hbuild]
      exact ⟨_, rfl⟩

/-- A generation fails once the first pass has succeeded and some function cannot be built. -/
theorem generateWithin_eq_error {catalog : Catalog} {scope : Scope} (extra : List String)
    {found : Emission} {fault : BuildFault}
    (hdiscover : catalog.discover (catalog.environment scope) {} = (found, .ok ()))
    (hfunctions :
      functionsResolved (catalog.environment scope) catalog.operations = .error fault) :
    (catalog.generateWithin scope extra).outcome = .error fault := by
  obtain ⟨built, hbuild⟩ := buildFunctions_of_discover hdiscover
  rw [hfunctions] at hbuild
  unfold generateWithin generating
  rw [Staged.bind_of_ok (Staged.mapError_eq_ok_iff.mpr hdiscover), Staged.bind_of_error hbuild]

/-- The first pass succeeds if all types of the operations resolve, and so do all fields below what
they lead to. -/
theorem discover_succeeds {catalog : Catalog} {P : TypeRef → Prop} (hsound : env.Sound P)
    (htypes : ∀ entry ∈ catalog.operations, ∀ type ∈ entry.2.discoveredTypes,
      (type.resolve env).outcome.isOk = true)
    (hroots : ∀ root ∈ catalog.roots env, P root) :
    ∃ found, catalog.discover env {} = (found, .ok ()) := by
  refine ⟨_, mapAll_eq_ok_iff.mpr ⟨Emission.succeeds_of_sound hsound {} ?_ ?_, rfl⟩⟩
  all_goals
    intro step hstep
    obtain ⟨type, htype, rfl⟩ := List.mem_map.mp hstep
  · obtain ⟨entry, hentry, hmem⟩ := List.mem_flatMap.mp htype
    exact htypes entry hentry type hmem
  · exact fun root hroot => hroots root (List.mem_flatMap.mpr ⟨type, htype, hroot⟩)

/-- A generation returns if all fields of the declarations and all types of the operations resolve,
and all functions can be built. -/
theorem generateWithin_returns_of_resolvable {catalog : Catalog} {scope : Scope}
    (extra : List String) (hfields : (catalog.environment scope).Resolvable)
    (htypes : ∀ entry ∈ catalog.operations, ∀ type ∈ entry.2.discoveredTypes,
      (type.resolve (catalog.environment scope)).outcome.isOk = true)
    (hfunctions :
      (functionsResolved (catalog.environment scope) catalog.operations).isOk = true) :
    ∃ generated, (catalog.generateWithin scope extra).outcome = .ok generated := by
  obtain ⟨found, hdiscover⟩ := discover_succeeds hfields.sound htypes fun _ _ => trivial
  exact generateWithin_returns extra hdiscover hfunctions

end Catalog

end CatalogClient
