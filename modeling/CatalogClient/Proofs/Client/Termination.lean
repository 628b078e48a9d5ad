/-
# Generations end

A generation notes records and maps types of its catalog, and nothing else changes what has been
emitted. So it is a run, whether it fails or not: it follows the fields of each name at most once,
and it adds at most as many files as there are names of declared types in the catalog.
-/

import CatalogClient.Proofs.Client.Binding
import CatalogClient.Proofs.Client.Closure
import CatalogClient.Proofs.Emission.Termination

namespace CatalogClient

variable {env : Environment}

namespace RunEvent

/-- Whether an event is a record or the mapping of one of some types. -/
def Maps (types : List TypeRef) : RunEvent → Prop
  | .record _ => True
  | .take (.map type) => type ∈ types
  | .take (.ensure _) => False

theorem declaredNames_subset {types : List TypeRef} {events : List RunEvent}
    (h : ∀ event ∈ events, event.Maps types) :
    events.flatMap declaredNames ⊆ types.flatMap TypeRef.declaredNames := by
  intro name hname
  obtain ⟨event, hevent, hname⟩ := List.mem_flatMap.mp hname
  cases event with
  | record log => cases hname
  | take step =>
      cases step with
      | map type => exact List.mem_flatMap.mpr ⟨type, h _ hevent, hname⟩
      | ensure type => exact (h _ hevent).elim

end RunEvent

namespace Emitting

variable {ε ε' α β : Type} {types : List TypeRef}

/-- Whether a state comes after another one by a run that notes records and maps some types. -/
def RunsTo (env : Environment) (types : List TypeRef) (start last : Emission) : Prop :=
  ∃ events : List RunEvent, (∀ event ∈ events, event.Maps types) ∧ last = start.run env events

theorem RunsTo.refl (start : Emission) : RunsTo env types start start :=
  ⟨[], by simp, rfl⟩

theorem RunsTo.trans (first middle last : Emission) (hfirst : RunsTo env types first middle)
    (hnext : RunsTo env types middle last) : RunsTo env types first last := by
  obtain ⟨events, hevents, rfl⟩ := hfirst
  obtain ⟨more, hmore, rfl⟩ := hnext
  refine ⟨events ++ more, fun event hmem => ?_, (Emission.run_append first events more).symm⟩
  exact (List.mem_append.mp hmem).elim (hevents event) (hmore event)

/-- A computation whose effect is that of a run that notes records and maps some types, wherever it
starts and however it ends. -/
def Runs (env : Environment) (types : List TypeRef) (computation : Emitting ε α) : Prop :=
  ∀ start : Emission, ∃ events : List RunEvent, (∀ event ∈ events, event.Maps types) ∧
    (computation start).1 = start.run env events

theorem runs_iff {computation : Emitting ε α} :
    Runs env types computation ↔ Staged.Effects (RunsTo env types) computation :=
  Iff.rfl

theorem Runs.pure (value : α) : Runs env types (Pure.pure value : Emitting ε α) :=
  runs_iff.mpr (.pure RunsTo.refl value)

theorem Runs.note (severity : Severity) (text : String) :
    Runs env types (Emitting.note severity text : Emitting ε Unit) :=
  fun _ => ⟨[.record [⟨severity, text⟩]], by simp [RunEvent.Maps], rfl⟩

theorem Runs.map {type : TypeRef} (hmem : type ∈ types) :
    Runs env types (Emitting.map env type) :=
  fun _ => ⟨[.take (.map type)], by simpa [RunEvent.Maps] using hmem, rfl⟩

theorem Runs.mapError {computation : Emitting ε α} (h : Runs env types computation)
    (convert : ε → ε') : Runs env types (computation.mapError convert : Emitting ε' α) := h

theorem Runs.bind {first : Emitting ε α} {next : α → Emitting ε β}
    (hfirst : Runs env types first) (hnext : ∀ value, Runs env types (next value)) :
    Runs env types (first >>= next) :=
  runs_iff.mpr (.bind RunsTo.trans hfirst hnext)

end Emitting

open Emitting

/-- A request function is built by mapping types of its operation. -/
theorem Operation.runs_requestEmitting {operation : Operation} {types : List TypeRef}
    (htypes : operation.discoveredTypes ⊆ types) :
    Runs env types (operation.requestEmitting env) := by
  apply runs_iff.mpr
  apply Operation.effects_request RunsTo.refl RunsTo.trans
  intro type htype
  exact (Runs.map (htypes htype)).mapError _

namespace Catalog

/-- The types that a generation maps: those of all operations. -/
def mappedTypes (catalog : Catalog) : List TypeRef :=
  catalog.operations.flatMap fun entry => entry.2.discoveredTypes

theorem runs_mapAll {types mapped : List TypeRef} (htypes : mapped ⊆ types) :
    Runs env types (mapAll env mapped) := by
  induction mapped with
  | nil => exact .pure ()
  | cons type rest ih =>
      obtain ⟨htype, hrest⟩ := List.cons_subset.mp htypes
      exact .bind (.map htype) fun target => ih hrest

theorem runs_buildFunctions {types : List TypeRef} {operations : Keyed Operation}
    (htypes : ∀ entry ∈ operations, entry.2.discoveredTypes ⊆ types) (earlier : Keyed Operation) :
    Runs env types (buildFunctions env earlier operations) := by
  induction operations generalizing earlier with
  | nil => exact .pure []
  | cons entry rest ih =>
      obtain ⟨hentry, hrest⟩ := List.forall_mem_cons.mp htypes
      obtain ⟨key, operation⟩ := entry
      unfold buildFunctions
      have hbuild : Runs env types (do
          let function ← operation.requestEmitting env
          let functions ← buildFunctions env (earlier ++ [(key, operation)]) rest
          pure (function :: functions)) := by
        refine .bind (Operation.runs_requestEmitting hentry) fun function => ?_
        exact .bind (ih hrest _) fun functions => .pure _
      refine .bind (.note _ _) fun _ => ?_
      cases earlier.find? fun entry => decide (entry.2.functionName = operation.functionName) with
      | none => exact hbuild
      | some first => exact .bind (.note _ _) fun _ => hbuild

/-- A generation is a run that maps types of the operations. -/
theorem runs_generating (env : Environment) (catalog : Catalog) (extra : List String) :
    Runs env catalog.mappedTypes (catalog.generating env extra) := by
  have hsubset : ∀ entry ∈ catalog.operations, entry.2.discoveredTypes ⊆ catalog.mappedTypes :=
    fun entry hentry type htype => List.mem_flatMap.mpr ⟨entry, hentry, htype⟩
  refine .bind ((runs_mapAll (List.Subset.refl _)).mapError _) fun _ => ?_
  refine .bind (runs_buildFunctions hsubset []) fun functions start => ?_
  exact @Runs.note env BuildFault catalog.mappedTypes _ _ start

theorem declaredNames_mappedTypes_subset (catalog : Catalog) :
    catalog.mappedTypes.flatMap TypeRef.declaredNames ++ catalog.declarations.declaredNames ⊆
      catalog.declaredNames := by
  refine List.append_subset.mpr ⟨fun name hname => ?_, List.subset_append_right _ _⟩
  obtain ⟨type, htype, hname⟩ := List.mem_flatMap.mp hname
  obtain ⟨entry, hentry, htype⟩ := List.mem_flatMap.mp htype
  refine List.mem_append_left _ (List.mem_flatMap.mpr ⟨entry, hentry, ?_⟩)
  rcases List.mem_cons.mp htype with rfl | hmem
  · exact List.mem_append_left _ hname
  · obtain ⟨parameter, hparameter, rfl⟩ := List.mem_map.mp hmem
    have hkept := (List.mem_filter.mp hparameter).1
    exact List.mem_append_right _ (List.mem_flatMap.mpr ⟨parameter, hkept, hname⟩)

/-- The registry of a client is the one that its generation ends with. -/
theorem registry_of_generating {catalog : Catalog} {extra : List String} {start last : Emission}
    {generated : Generated} (h : catalog.generating env extra start = (last, .ok generated)) :
    generated.registry = last.registry := by
  obtain ⟨_, _, -, hsecond⟩ := Staged.bind_eq_ok_iff.mp h
  obtain ⟨built, functions, -, hassemble⟩ := Staged.bind_eq_ok_iff.mp hsecond
  obtain ⟨rfl, hok⟩ := Prod.mk.inj hassemble
  obtain rfl := Except.ok.inj hok
  rfl

/-- Emission ends on every catalog, however its declarations refer to each other. Emissions are not
nested without end, and every step from every state does exactly one thing. Whatever is mapped or
emitted in a run, whether it fails or not, the fields of a name are followed at most once, and there
are no more files than names of declared types that it meets. A generation is such a run, with no
more files than there are names of declared types in the catalog. -/
theorem emission_terminates (catalog : Catalog) (packages extra : List String) :
    let env := catalog.environment (.ofPackages packages)
    WellFounded (Emission.Nested env) ∧
    (∀ (start : Emission) (step : EmissionStep), ∃! result : Emission × Except Rejection Unit,
      step.Performs env start result.1 result.2) ∧
    (∀ events : List RunEvent,
      (∀ name, (simpleNames (({} : Emission).followedIn env events)).count name ≤ 1) ∧
      (({} : Emission).run env events).project.files.length ≤
        (events.flatMap RunEvent.declaredNames ++
          catalog.declarations.declaredNames).eraseDups.length) ∧
    (∃ events : List RunEvent, (∀ event ∈ events, event.Maps catalog.mappedTypes) ∧
      (catalog.generating env extra {}).1 = ({} : Emission).run env events ∧
      (({} : Emission).run env events).project.files.length ≤
        catalog.declaredNames.eraseDups.length) ∧
    ∀ generated, (catalog.generate packages extra).outcome = .ok generated →
      generated.project.declarationFiles.length ≤ catalog.declaredNames.eraseDups.length := by
  intro env
  obtain ⟨events, hmaps, hlast⟩ := runs_generating env catalog extra {}
  have hfiles : (({} : Emission).run env events).project.files.length ≤
      catalog.declaredNames.eraseDups.length := by
    apply Emission.length_files_le
    refine List.Subset.trans ?_ catalog.declaredNames_mappedTypes_subset
    refine List.append_subset.mpr ⟨?_, List.subset_append_right _ _⟩
    exact List.subset_append_of_subset_left _ (RunEvent.declaredNames_subset hmaps)
  refine ⟨Emission.wellFounded_nested env, fun start step => ?_, fun events => ⟨fun name => ?_, ?_⟩,
    ⟨events, hmaps, hlast, hfiles⟩, fun generated h => ?_⟩
  · refine ⟨step.perform env start, EmissionStep.performs_iff.mpr rfl, fun result hresult => ?_⟩
    exact (EmissionStep.performs_iff.mp hresult).symm
  · exact Emission.count_followedIn_le_one events name
  · exact Emission.length_files_le events (List.Subset.refl _)
  · have hregistry : generated.registry = (({} : Emission).run env events).registry := by
      rw [← hlast]
      exact registry_of_generating (Prod.ext rfl h)
    obtain ⟨hentries, hrender⟩ := emitted_of_generate h
    have hcount := congrArg List.length hrender
    have hnames := congrArg List.length (Emission.inStep_run env events).1
    rw [Project.fileNames, ← hregistry, taken_of_entries hentries] at hnames
    simp only [simpleNames, List.length_map] at hcount hnames
    rwa [← hcount, ← hnames]

end Catalog

end CatalogClient
