/-
# No operation is lost

The second pass builds one function for each operation, in order, and keeps them all: two operations
that ask for the same function name both get their function. What it notes comes in as many parts as
there are operations. Each part names its operation first, and then, if an earlier operation has the
same function name, the earliest one that does.
-/

import CatalogClient.Proofs.Client.Binding
import CatalogClient.Proofs.Client.Functions
import CatalogClient.Proofs.Emission.Records

namespace CatalogClient

variable {env : Environment}

/-- The effect of a mapping on the log. -/
theorem Emitting.logs_map (env : Environment) (type : TypeRef) :
    Staged.Effects Emission.Logs (Emitting.map env type) := by
  intro start
  rcases hmap : Emitting.map env type start with ⟨next, outcome⟩
  have hresolve : Emission.Logs start (start.notes (type.resolve env).log) :=
    .notes start (TypeRef.notesOutside_resolve type)
  rcases Emitting.map_cases hmap with ⟨rejection, -, -, rfl⟩ | ⟨target, below, -, -, hemits⟩
  · exact hresolve
  · exact hresolve.trans hemits.logs

namespace Operation

theorem logs_requestEmitting (operation : Operation) (env : Environment) :
    Staged.Effects Emission.Logs (operation.requestEmitting env) := by
  apply effects_request Emission.Logs.refl fun _ _ _ => Emission.Logs.trans
  intro type _
  exact (Emitting.logs_map env type).mapError _

/-- Where all names are taken, the function of an operation is the one that it has on its own. -/
theorem outcome_requestEmitting {operation : Operation} {start : Emission}
    (hcovers : ∀ type ∈ operation.discoveredTypes, Emission.Covers env start.registry type) :
    (operation.requestEmitting env start).2 = (operation.requestOnly env).outcome := by
  have hsettles : Staged.Settles (Emission.Shows start.registry start.project)
      (operation.requestEmitting env) (operation.requestResolved env) := by
    apply settles_request
    intro type htype
    exact (Emission.settles_map (hcovers type htype)).mapError _
  rw [outcome_requestOnly]
  exact (hsettles start ⟨rfl, rfl⟩).2

end Operation

/-- The record that an operation is next. -/
def announcement (entry : String × Operation) : LogRecord :=
  ⟨.debug, "Generating " ++ entry.2.functionName ++ " for " ++ entry.1⟩

/-- The record of two operations that ask for the same function name. -/
def duplicateWarning (first entry : String × Operation) : LogRecord :=
  ⟨.warning, first.1 ++ " and " ++ entry.1 ++ " both generate " ++ entry.2.functionName⟩

/-- What is noted about an operation after the earlier ones: that it is next, that its function name
is that of an earlier operation, the earliest one of this name, and what the mapping of its types
leaves. -/
structure Reports (earlier : Keyed Operation) (entry : String × Operation) (records : Log) :
    Prop where
  fresh : (∀ other ∈ earlier, other.2.functionName ≠ entry.2.functionName) →
    ∃ mapped, records = announcement entry :: mapped ∧ ∀ record ∈ mapped, MappingRecord record
  duplicate : ∀ first,
    IsFirst (fun other => other.2.functionName = entry.2.functionName) earlier first →
      ∃ mapped, records = announcement entry :: duplicateWarning first entry :: mapped ∧
        ∀ record ∈ mapped, MappingRecord record

namespace Reports

variable {earlier : Keyed Operation} {entry first : String × Operation} {mapped : Log}

theorem of_fresh (hfresh : ∀ other ∈ earlier, other.2.functionName ≠ entry.2.functionName)
    (hmapped : ∀ record ∈ mapped, MappingRecord record) :
    Reports earlier entry (announcement entry :: mapped) where
  fresh _ := ⟨mapped, rfl, hmapped⟩
  duplicate := by
    rintro first ⟨before, after, rfl, -, hsame⟩
    exact absurd hsame (hfresh first (List.mem_append_right _ List.mem_cons_self))

theorem of_duplicate
    (hfirst : IsFirst (fun other => other.2.functionName = entry.2.functionName) earlier first)
    (hmapped : ∀ record ∈ mapped, MappingRecord record) :
    Reports earlier entry (announcement entry :: duplicateWarning first entry :: mapped) where
  fresh hfresh := by
    obtain ⟨before, after, rfl, -, hsame⟩ := hfirst
    exact absurd hsame (hfresh first (List.mem_append_right _ List.mem_cons_self))
  duplicate other hother := by
    rw [← find?_eq_some_iff_isFirst] at hfirst hother
    obtain rfl := Option.some.inj (hfirst.symm.trans hother)
    exact ⟨mapped, rfl, hmapped⟩

end Reports

namespace Catalog

/-- The function of the first operation is built on its own, with the records of this operation. -/
theorem buildFunctions_cons_eq_ok {earlier rest : Keyed Operation} {entry : String × Operation}
    {start last : Emission} {functions : List RequestFunction}
    (h : buildFunctions env earlier (entry :: rest) start = (last, .ok functions)) :
    ∃ middle others records, middle.log = start.log ++ records ∧ Reports earlier entry records ∧
      buildFunctions env (earlier ++ [entry]) rest middle = (last, .ok others) := by
  obtain ⟨key, operation⟩ := entry
  obtain ⟨announced, _, hannounced, h⟩ := Staged.bind_eq_ok_iff.mp h
  obtain rfl := (Prod.mk.inj hannounced).1.symm
  have hbuild : ∀ noted : Emission, (do
      let function ← operation.requestEmitting env
      let functions ← buildFunctions env (earlier ++ [(key, operation)]) rest
      pure (function :: functions) : Emitting _ _) noted = (last, .ok functions) →
      ∃ middle others mapped, middle.log = noted.log ++ mapped ∧
        (∀ record ∈ mapped, MappingRecord record) ∧
        buildFunctions env (earlier ++ [(key, operation)]) rest middle = (last, .ok others) := by
    intro noted h
    obtain ⟨middle, function, hfunction, h⟩ := Staged.bind_eq_ok_iff.mp h
    obtain ⟨_, others, hothers, hlast⟩ := Staged.bind_eq_ok_iff.mp h
    obtain rfl := (Prod.mk.inj hlast).1
    obtain ⟨mapped, hmapped, hlog⟩ := operation.logs_requestEmitting env noted
    rw [hfunction] at hlog
    exact ⟨middle, others, mapped, hlog, hmapped, hothers⟩
  cases hfirst : earlier.find? fun other => decide (other.2.functionName = operation.functionName)
    with
  | none =>
      rw [hfirst] at h
      obtain ⟨middle, others, mapped, hlog, hmapped, hothers⟩ := hbuild _ h
      refine ⟨middle, others, announcement (key, operation) :: mapped, ?_, ?_, hothers⟩
      · rw [hlog]
        exact List.append_assoc _ _ _
      · apply Reports.of_fresh _ hmapped
        intro other hother
        simpa using List.find?_eq_none.mp hfirst other hother
  | some first =>
      rw [hfirst] at h
      obtain ⟨noted, _, hnoted, h⟩ := Staged.bind_eq_ok_iff.mp h
      obtain rfl := (Prod.mk.inj hnoted).1.symm
      obtain ⟨middle, others, mapped, hlog, hmapped, hothers⟩ := hbuild _ h
      refine ⟨middle, others, announcement (key, operation) ::
        duplicateWarning first (key, operation) :: mapped, ?_, ?_, hothers⟩
      · rw [hlog]
        simp [Emission.note, announcement, duplicateWarning]
      · exact .of_duplicate (find?_eq_some_iff_isFirst.mp hfirst) hmapped

/-- The second pass notes one part for each operation, in order. -/
theorem records_buildFunctions {operations earlier : Keyed Operation} {start last : Emission}
    {functions : List RequestFunction}
    (h : buildFunctions env earlier operations start = (last, .ok functions)) :
    ∃ parts : List Log, last.log = start.log ++ parts.flatten ∧
      parts.length = operations.length ∧
      ∀ before entry after, operations = before ++ entry :: after →
        ∃ records, parts[before.length]? = some records ∧
          Reports (earlier ++ before) entry records := by
  induction operations generalizing earlier start functions with
  | nil =>
      obtain rfl := (Prod.mk.inj h).1
      refine ⟨[], (List.append_nil _).symm, rfl, fun before entry after hsplit => ?_⟩
      simp at hsplit
  | cons entry rest ih =>
      obtain ⟨middle, others, records, hlog, hreports, hrest⟩ := buildFunctions_cons_eq_ok h
      obtain ⟨parts, hparts, hlength, hentries⟩ := ih hrest
      refine ⟨records :: parts, ?_, by rw [List.length_cons, hlength, List.length_cons], ?_⟩
      · rw [hparts, hlog, List.flatten_cons, List.append_assoc]
      · intro before found after hsplit
        cases before with
        | nil =>
            obtain ⟨rfl, -⟩ := List.cons.inj hsplit
            exact ⟨records, rfl, by rwa [List.append_nil]⟩
        | cons _ before =>
            obtain ⟨rfl, hrest⟩ := List.cons.inj hsplit
            obtain ⟨others, hothers, hreported⟩ := hentries before found after hrest
            exact ⟨others, hothers, by rwa [List.append_assoc] at hreported⟩

theorem logs_mapAll (env : Environment) (types : List TypeRef) :
    Staged.Effects Emission.Logs (mapAll env types) := by
  induction types with
  | nil => exact .pure Emission.Logs.refl ()
  | cons type rest ih =>
      apply Staged.Effects.bind (R := Emission.Logs) (fun _ _ _ => .trans)
        (Emitting.logs_map env type)
      exact fun _ => ih

/-- The record at the end of a generation. -/
def summary (catalog : Catalog) (generated : Generated) : LogRecord :=
  ⟨.info, "Generated " ++ toString catalog.operations.length ++ " operations and "
    ++ toString generated.registry.size ++ " declarations"⟩

/-- The log of a generation that returns: what the first pass notes, what the second pass notes of
each operation, and the summary. -/
theorem log_of_generate {catalog : Catalog} {scope : Scope} {extra : List String}
    {generated : Generated} (h : (catalog.generateWithin scope extra).outcome = .ok generated) :
    ∃ (mapped : Log) (parts : List Log),
      (catalog.generateWithin scope extra).log =
        mapped ++ parts.flatten ++ [catalog.summary generated] ∧
      (∀ record ∈ mapped, MappingRecord record) ∧ parts.length = catalog.operations.length ∧
      ∀ before entry after, catalog.operations = before ++ entry :: after →
        ∃ records, parts[before.length]? = some records ∧ Reports before entry records := by
  obtain ⟨found, built, functions, hdiscover, hbuild, hassemble, hlog⟩ := passes_of_generate h
  obtain ⟨mapped, hmapped, hfirst⟩ : Emission.Logs {} found := by
    have hlogs := logs_mapAll (catalog.environment scope)
      (catalog.operations.flatMap fun entry => entry.2.discoveredTypes) {}
    unfold discover at hdiscover
    rwa [hdiscover] at hlogs
  obtain ⟨parts, hsecond, hlength, hreports⟩ := records_buildFunctions hbuild
  refine ⟨mapped, parts, ?_, hmapped, hlength, hreports⟩
  have hsummary : (catalog.assemble extra functions built).1.log =
      built.log ++ [catalog.summary generated] := by
    obtain rfl := Except.ok.inj hassemble
    rfl
  rw [hlog, hsummary, hsecond, hfirst]
  rfl

end Catalog

namespace Sample

/-- Four operations, three of which ask for the same function name. -/
def repeatedCatalog : Catalog where
  operations := [
    ("first", { url := "/first", functionName := "load", returnType := composite "Node" }),
    ("second", { url := "/second", functionName := "save", returnType := composite "Node" }),
    ("third", { url := "/third", functionName := "load", returnType := composite "User" }),
    ("fourth", { url := "/fourth", functionName := "load", returnType := composite "User" })]
  declarations := environment.declarations

theorem repeated_returns :
    ∃ generated, (repeatedCatalog.generate ["app"]).outcome = .ok generated :=
  Catalog.generateWithin_returns_of_resolvable [] resolvable (by decide) (by decide)

end Sample

namespace Catalog

/-- No operation is lost. The functions of the client are those of the operations, one for each and
in their order, whatever their names. The records of the second pass come in parts, one for each
operation: where an earlier operation has the same function name, the part warns of it once and
names the earliest one, and else it does not. -/
theorem generate_keeps_every_operation {catalog : Catalog} {packages extra : List String}
    {generated : Generated} (h : (catalog.generate packages extra).outcome = .ok generated) :
    let env := catalog.environment (.ofPackages packages)
    (∃ last, generated.project.files = generated.project.declarationFiles ++ [last] ∧
      last.name = functionsFileName ∧
      catalog.operations.map (fun entry => (entry.2.requestOnly env).outcome) =
        last.functions.map .ok ∧
      ∀ start : Emission, start.registry = generated.registry →
        catalog.operations.map (fun entry => (entry.2.requestEmitting env start).2) =
          last.functions.map .ok) ∧
    ∃ (mapped : Log) (parts : List Log),
      (catalog.generate packages extra).log =
        mapped ++ parts.flatten ++ [catalog.summary generated] ∧
      (∀ record ∈ mapped, MappingRecord record) ∧ parts.length = catalog.operations.length ∧
      ∀ before entry after, catalog.operations = before ++ entry :: after →
        ∃ records, parts[before.length]? = some records ∧ Reports before entry records := by
  intro env
  obtain ⟨found, functions, hdiscover, -, hfunctions, hregistry, -⟩ := generateWithin_eq_ok h
  obtain ⟨_, hresolved, hproject⟩ := files_of_generate h
  obtain rfl := Except.ok.inj (hfunctions.symm.trans hresolved)
  obtain ⟨-, hcovers⟩ := discover_eq_ok hdiscover
  have hbuilt := functionsResolved_eq_ok_iff.mp hfunctions
  refine ⟨⟨_, hproject, ?_, ?_, fun start hstart => ?_⟩, log_of_generate h⟩
  · rw [functionsFile_eq]
  · rwa [functionsFile_eq]
  · rw [functionsFile_eq, ← hbuilt]
    apply List.map_congr_left
    intro entry hentry
    apply Operation.outcome_requestEmitting
    rw [hstart, hregistry]
    exact hcovers entry hentry

theorem generate_keeps_every_operation_sample :
    ∃ generated, (Sample.repeatedCatalog.generate ["app"]).outcome = .ok generated ∧
      (∃ last ∈ generated.project.files, last.functions.length = 4) ∧
      ∃ first ∈ Sample.repeatedCatalog.operations.head?,
        ∀ entry ∈ Sample.repeatedCatalog.operations.drop 2,
          duplicateWarning first entry ∈ (Sample.repeatedCatalog.generate ["app"]).log := by
  obtain ⟨generated, h⟩ := Sample.repeated_returns
  obtain ⟨⟨last, hproject, -, hfunctions, -⟩, mapped, parts, hlog, -, -, hreports⟩ :=
    generate_keeps_every_operation h
  have hcount : last.functions.length = 4 := by
    have hlengths := congrArg List.length hfunctions
    rw [List.length_map, List.length_map] at hlengths
    exact hlengths.symm
  have hwarned : ∀ before entry after first,
      Sample.repeatedCatalog.operations = before ++ entry :: after →
      IsFirst (fun other => other.2.functionName = entry.2.functionName) before first →
        duplicateWarning first entry ∈ (Sample.repeatedCatalog.generate ["app"]).log := by
    intro before entry after first hsplit hfirst
    obtain ⟨records, hrecords, hreported⟩ := hreports before entry after hsplit
    obtain ⟨others, rfl, -⟩ := hreported.duplicate first hfirst
    rw [hlog]
    apply List.mem_append_left
    apply List.mem_append_right
    apply List.mem_flatten_of_mem (List.mem_of_getElem? hrecords)
    exact List.mem_cons_of_mem _ List.mem_cons_self
  have hmem : last ∈ generated.project.files := by
    rw [hproject]
    exact List.mem_append_right _ List.mem_cons_self
  refine ⟨generated, h, ⟨last, hmem, hcount⟩, _, rfl, fun entry hentry => ?_⟩
  rcases List.mem_cons.mp hentry with rfl | hentry
  · exact hwarned (Sample.repeatedCatalog.operations.take 2) _ _ _ rfl
      ⟨[], _, rfl, List.forall_mem_nil _, rfl⟩
  · obtain rfl := List.mem_singleton.mp hentry
    exact hwarned (Sample.repeatedCatalog.operations.take 3) _ _ _ rfl
      ⟨[], _, rfl, List.forall_mem_nil _, rfl⟩

end Catalog

end CatalogClient
