/-
# The file of the functions is closed

The file of the functions imports every registered name once, in the order of the code points. The
types of its arguments and responses were mapped in the first pass, so whatever declared types they
are spelled with are registered: no function uses a declared type that is not imported, wherever in
the type it stands.
-/

import CatalogClient.Proofs.Client.Functions
import CatalogClient.Proofs.Emission.Registry
import CatalogClient.Proofs.Spelling

namespace CatalogClient

namespace Operation

/-- The type of the parameter that an argument for the path or for the payload stands for. -/
def argumentType? (operation : Operation) (argument : Argument) : Option TypeRef :=
  match argument.source with
  | .path => (operation.pathParameter? argument.name).map Parameter.type
  | .body => operation.bodyParameter?.map Parameter.type
  | _ => none

variable {operation : Operation} {map : TypeRef → Logged BuildFault Target}

/-- Every argument for the path has the type of the parameter that binds its placeholder. -/
theorem mem_pathArguments {placeholders : List String} {arguments : List Argument}
    (h : (operation.pathArguments map placeholders).outcome = .ok arguments) :
    ∀ argument ∈ arguments, argument.source = .path ∧ ∃ parameter target,
      operation.pathParameter? argument.name = some parameter ∧
        (map parameter.type).outcome = .ok target ∧
        argument.type = some target.expression := by
  induction placeholders generalizing arguments with
  | nil =>
      obtain rfl := Except.ok.inj h
      exact List.forall_mem_nil _
  | cons placeholder rest ih =>
      rw [pathArguments] at h
      cases hfound : operation.pathParameter? placeholder with
      | none =>
          rw [hfound] at h
          cases h
      | some parameter =>
          rw [hfound] at h
          obtain ⟨target, htarget, h⟩ := (Logged.bind_outcome_eq_ok_iff _ _ _).mp h
          obtain ⟨others, hothers, hret⟩ := (Logged.bind_outcome_eq_ok_iff _ _ _).mp h
          obtain rfl := Except.ok.inj hret
          intro argument hmem
          rcases List.mem_cons.mp hmem with rfl | hmem
          · exact ⟨rfl, parameter, target, hfound, htarget, rfl⟩
          · exact ih hothers argument hmem

/-- The argument for the payload has the type of the payload. -/
theorem mem_bodyArgument {body : Option Argument}
    (h : (operation.bodyArgument map).outcome = .ok body) :
    ∀ argument ∈ body, argument.source = .body ∧ ∃ parameter target,
      operation.bodyParameter? = some parameter ∧ (map parameter.type).outcome = .ok target ∧
        argument.type = some target.expression := by
  unfold bodyArgument at h
  cases hfound : operation.bodyParameter? with
  | none =>
      rw [hfound] at h
      obtain rfl := Except.ok.inj h
      intro argument hmem
      cases hmem
  | some parameter =>
      rw [hfound] at h
      obtain ⟨target, htarget, hret⟩ := (Logged.bind_outcome_eq_ok_iff _ _ _).mp h
      obtain rfl := Except.ok.inj hret
      intro argument hmem
      obtain rfl := Option.mem_some.mp hmem
      exact ⟨rfl, parameter, target, rfl, htarget, rfl⟩

/-- The types in a request function are those of its operation: that of the response, and for an
argument of the path or the payload that of the parameter that it stands for. -/
theorem types_of_request {function : RequestFunction}
    (h : (operation.request map).outcome = .ok function) :
    (∀ argument ∈ function.arguments, argument.source = .path ∨ argument.source = .body →
      ∃ type target, operation.argumentType? argument = some type ∧
        type ∈ operation.discoveredTypes ∧ (map type).outcome = .ok target ∧
        argument.type = some target.expression) ∧
    ∃ target, (map operation.returnType).outcome = .ok target ∧
      function.response = target.expression := by
  unfold request at h
  obtain ⟨arguments, harguments, h⟩ := (Logged.bind_outcome_eq_ok_iff _ _ _).mp h
  obtain ⟨body, hbody, h⟩ := (Logged.bind_outcome_eq_ok_iff _ _ _).mp h
  obtain ⟨response, hresponse, hret⟩ := (Logged.bind_outcome_eq_ok_iff _ _ _).mp h
  obtain rfl := Except.ok.inj hret
  refine ⟨fun argument hmem hsource => ?_, response, hresponse, rfl⟩
  simp only [List.mem_append, or_assoc] at hmem
  rcases hmem with hpath | hpage | hquery | hpayload
  · obtain ⟨hkind, parameter, target, hfound, htarget, htype⟩ :=
      mem_pathArguments harguments argument hpath
    refine ⟨parameter.type, target, ?_, type_mem_of_pathParameter? hfound, htarget, htype⟩
    rw [argumentType?, hkind, hfound]
    rfl
  · split at hpage
    · rw [List.mem_singleton.mp hpage] at hsource
      simp [pageArgument] at hsource
    · cases hpage
  · obtain ⟨key, -, rfl⟩ := List.mem_map.mp hquery
    simp at hsource
  · obtain ⟨hkind, parameter, target, hfound, htarget, htype⟩ :=
      mem_bodyArgument hbody argument (Option.mem_toList.mp hpayload)
    refine ⟨parameter.type, target, ?_, type_mem_of_bodyParameter? hfound, htarget, htype⟩
    rw [argumentType?, hkind, hfound]
    rfl

end Operation

/-- An expression that is the client type of a server type, and whose declared types are all among
some names: it is spelled as the type is, and every declared type in it has one of the names. -/
structure Expression.Closed (env : Environment) (names : List String) (type : TypeRef)
    (expression : Expression) : Prop where
  spelled : expression.names = (type.spellings env).map Spelling.text
  named : ∀ found, .declared found ∈ type.spellings env → found.simpleName ∈ names

namespace Catalog

/-- The lines that import the registered names are all added, since no name is registered twice. -/
theorem imports_functionsFile {registry : Registry} (hnodup : registry.taken.Nodup)
    (functions : List RequestFunction) (extra : List String) :
    (functionsFile registry functions extra).imports =
      functionsHeader :: registry.names.map functionsImportLine := by
  have hlines : (registry.names.map functionsImportLine).Nodup := by
    apply List.Pairwise.map functionsImportLine (R := (· ≠ ·))
    · intro name other hne hsame
      exact hne (functionsImportLine_inj.mp hsame)
    · exact (Registry.perm_names registry).nodup_iff.mpr hnodup
  have hheader : functionsHeader ∉ registry.names.map functionsImportLine := by
    intro hmem
    obtain ⟨name, -, hsame⟩ := List.mem_map.mp hmem
    exact functionsImportLine_ne_header name hsame
  rw [functionsFile_eq]
  exact foldl_addOnce_of_nodup (List.nodup_cons.mpr ⟨hheader, hlines⟩)

/-- A type whose names are all registered has a closed expression. -/
theorem closed_of_covers {env : Environment} {registry : Registry} {type : TypeRef}
    {target : Target} (hcovers : Emission.Covers env registry type)
    (hresolve : (type.resolve env).outcome = .ok target) :
    target.expression.Closed env registry.names type := by
  obtain ⟨hnames, hgenerated⟩ := TypeRef.spelledBy_resolve type target hresolve
  refine ⟨hnames, fun found hfound => Registry.mem_names.mpr ?_⟩
  obtain ⟨other, hother, hsame⟩ := List.mem_map.mp (hgenerated found hfound)
  rw [← hsame]
  apply hcovers other
  · rwa [TypeRef.discovered_of_resolve hresolve]
  · obtain ⟨hground, -⟩ := TypeRef.leadsTo_of_resolve type target hresolve
    exact hground.declared other hother

end Catalog

namespace Sample

/-- A page of entries: a generic type of the scanned package. -/
def pageOf (entry : TypeRef) : TypeRef where
  kind := .parameterized
  rawKind := some .other
  raw := some (composite "Page")
  arguments := [entry]

/-- A catalog with an enumeration in the path, a payload and a page of entries as the answer. -/
def searchCatalog : Catalog where
  operations := [("search", {
    url := "/nodes/\x7brole\x7d"
    functionName := "searchNodes"
    parameters := [
      { name := "role", type := role, source := .path },
      { name := "user", type := composite "User", source := .body }]
    returnType := pageOf (composite "Node") })]
  declarations := environment.declarations

theorem search_returns :
    ∃ generated, (searchCatalog.generate ["app"]).outcome = .ok generated :=
  Catalog.generateWithin_returns_of_resolvable [] resolvable (by decide) (by decide)

end Sample

namespace Catalog

/-- The file of the functions is closed. After its header it imports every registered name once, in
the rising order of code points. Each of its functions is that of an operation, and wherever an
enumeration, a composite type of a scanned package or the raw type of a generic one stands in the
type of an argument for the path, of the payload or of the response, its name is imported. -/
theorem functions_file_is_closed {catalog : Catalog} {packages extra : List String}
    {generated : Generated} (h : (catalog.generate packages extra).outcome = .ok generated) :
    let env := catalog.environment (.ofPackages packages)
    let names := generated.registry.names
    ∃ last, generated.project.files = generated.project.declarationFiles ++ [last] ∧
      last.name = functionsFileName ∧
      last.imports = functionsHeader :: names.map functionsImportLine ∧
      names.Pairwise (· < ·) ∧ (∀ name, name ∈ names ↔ name ∈ generated.registry.taken) ∧
      ∀ function ∈ last.functions, ∃ entry ∈ catalog.operations,
        (entry.2.requestOnly env).outcome = .ok function ∧
        (∀ argument ∈ function.arguments, argument.source = .path ∨ argument.source = .body →
          ∃ type expression, entry.2.argumentType? argument = some type ∧
            argument.type = some expression ∧ expression.Closed env names type) ∧
        function.response.Closed env names entry.2.returnType := by
  intro env names
  obtain ⟨hnodup, -⟩ := nodup_of_generate h
  obtain ⟨functions, hfunctions, hproject⟩ := files_of_generate h
  obtain ⟨found, -, hdiscover, -, -, hregistry, -⟩ := generateWithin_eq_ok h
  obtain ⟨-, hcovers⟩ := discover_eq_ok hdiscover
  rw [← hregistry] at hcovers
  refine ⟨_, hproject, by rw [functionsFile_eq], imports_functionsFile hnodup _ _,
    Registry.pairwise_lt_names hnodup, fun name => Registry.mem_names, fun function hmem => ?_⟩
  rw [functionsFile_eq] at hmem
  have hbuilt : Except.ok function ∈
      catalog.operations.map fun entry => (entry.2.requestOnly env).outcome := by
    rw [functionsResolved_eq_ok_iff.mp hfunctions]
    exact List.mem_map_of_mem hmem
  obtain ⟨entry, hentry, hfunction⟩ := List.mem_map.mp hbuilt
  obtain ⟨harguments, response, hresponse, hexpression⟩ := Operation.types_of_request hfunction
  refine ⟨entry, hentry, hfunction, fun argument hargument hsource => ?_, ?_⟩
  · obtain ⟨type, target, htype, hdiscovered, htarget, hspelled⟩ :=
      harguments argument hargument hsource
    refine ⟨type, target.expression, htype, hspelled, ?_⟩
    exact closed_of_covers (hcovers entry hentry type hdiscovered)
      (Except.mapError_eq_ok_iff.mp htarget)
  · rw [hexpression]
    exact closed_of_covers (hcovers entry hentry _ List.mem_cons_self)
      (Except.mapError_eq_ok_iff.mp hresponse)

theorem functions_file_is_closed_sample :
    ∃ generated, (Sample.searchCatalog.generate ["app"]).outcome = .ok generated ∧
      ∃ last ∈ generated.project.files, last.functions.length = 1 ∧
        ∀ name ∈ ["Page", "Node"], functionsImportLine name ∈ last.imports := by
  obtain ⟨generated, h⟩ := Sample.search_returns
  obtain ⟨last, hproject, -, himports, -, -, hclosed⟩ := functions_file_is_closed h
  obtain ⟨functions, hresolved, hfiles⟩ := files_of_generate h
  obtain rfl := List.singleton_inj.mp (List.append_cancel_left (hproject.symm.trans hfiles))
  obtain ⟨function, rfl⟩ : ∃ function, functions = [function] := by
    apply List.length_eq_one_iff.mp
    have hcount := congrArg List.length (functionsResolved_eq_ok_iff.mp hresolved)
    simpa [Sample.searchCatalog] using hcount.symm
  have hlast : (functionsFile generated.registry [function] []).functions = [function] := by
    rw [functionsFile_eq]
  rw [hlast] at hclosed
  obtain ⟨entry, hentry, -, -, hresponse⟩ := hclosed function List.mem_cons_self
  obtain rfl := List.mem_singleton.mp hentry
  have hmem : functionsFile generated.registry [function] [] ∈ generated.project.files := by
    rw [hproject]
    exact List.mem_append_right _ List.mem_cons_self
  refine ⟨generated, h, _, hmem, by rw [hlast]; rfl, fun name hname => ?_⟩
  rw [himports]
  apply List.mem_cons_of_mem
  apply List.mem_map_of_mem
  rcases List.mem_cons.mp hname with rfl | hname
  · exact hresponse.named (Sample.composite "Page") List.mem_cons_self
  · obtain rfl := List.mem_singleton.mp hname
    exact hresponse.named (Sample.composite "Node") (List.mem_cons_of_mem _ List.mem_cons_self)

end Catalog

end CatalogClient
