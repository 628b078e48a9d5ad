/-
# Walks end

The declarations of a catalog may refer to each other in any way. A type that is emitted within the
emission of another one has fewer names left to take, so emissions are not nested without end. Over
a whole run the fields of a name are followed at most once, and there are no more files than names.
-/

import CatalogClient.Proofs.Catalog.DeclaredNames
import CatalogClient.Proofs.Emission.Closure
import CatalogClient.Proofs.Emission.Openings
import Mathlib.Data.List.Nodup
import Mathlib.Data.List.Perm.Subperm

namespace CatalogClient

namespace Emission

variable {env : Environment}

/-- Within the emission of a composite type in one state, another type is emitted in a later state:
some fields of the first have been followed, and some of the types that the next field leads to have
been emitted. -/
inductive Nested (env : Environment) : Emission × TypeRef → Emission × TypeRef → Prop
  | intro {start opened followed inner : Emission} {owner type : TypeRef}
      {declaration : Declaration} {before after : List Field} {field : Field} {target : Target}
      {parts : List Argument × List String} {earlier later : List TypeRef}
      (kind : owner.kind = .composite) (opens : start.opened? owner = some opened)
      (found : env.declarations.find? owner = some declaration)
      (fields : declaration.visibleFields = before ++ field :: after)
      (follows : Follows env opened owner.simpleName before [] [] followed (.ok parts))
      (resolved : (field.type.resolve env).outcome = .ok target)
      (types : target.discovered = earlier ++ type :: later)
      (emits : EmitsAll env (followed.notes (field.type.resolve env).log) earlier inner (.ok ())) :
      Nested env (inner, type) (start, owner)

/-- Fewer names are left where a type is emitted within the emission of another one, which takes its
name before its fields are followed and keeps it. -/
theorem Nested.left_lt {inner outer : Emission × TypeRef} (h : Nested env inner outer) :
    inner.1.left env [inner.2.simpleName] < outer.1.left env [outer.2.simpleName] := by
  obtain ⟨-, hopens, hfound, hfields, hfollows, hresolved, htypes, hemits⟩ := h
  next start opened followed state owner type declaration before after field target _ _ _ =>
  have hname : [type.simpleName] ⊆ env.names := by
    apply List.cons_subset.mpr ⟨?_, List.nil_subset _⟩
    apply fieldNames_subset_of_find? hfound
    refine List.mem_flatMap.mpr ⟨field, by simp [hfields], ?_⟩
    rw [discovered_of_resolve hresolved, htypes]
    exact simpleName_mem_simpleNames (by simp)
  have hkept : opened.registry.taken ⊆ state.registry.taken := by
    have hmoves : Moves opened state :=
      hfollows.moves.trans (.head (move_notes followed _) hemits.moves)
    exact (Registry.taken_grow hmoves.entries_grow).subset
  calc state.left env [type.simpleName]
      ≤ opened.left env [type.simpleName] := left_le hkept (List.Sublist.refl _)
    _ < start.left env [owner.simpleName] := left_lt_of_opened? hopens hname

/-- Emissions are not nested without end, however the declarations refer to each other. -/
theorem wellFounded_nested (env : Environment) : WellFounded (Nested env) :=
  Subrelation.wf Nested.left_lt
    (measure fun call : Emission × TypeRef => call.1.left env [call.2.simpleName]).wf

end Emission

namespace EmissionStep

variable {env : Environment}

/-- The type that a step is about. -/
def type : EmissionStep → TypeRef
  | .map type => type
  | .ensure type => type

/-- The types whose files a step opens, in order. -/
def openings (env : Environment) (start : Emission) : EmissionStep → List TypeRef
  | .map type => (start.notes (type.resolve env).log).openings env (type.discovered env)
  | .ensure type => start.openings env [type]

theorem opens_perform (start : Emission) (step : EmissionStep) :
    Emission.Opens env (step.roots env) start (step.perform env start).1
      (step.openings env start) := by
  have hperforms : step.Performs env start (step.perform env start).1 (step.perform env start).2 :=
    performs_iff.mpr rfl
  generalize (step.perform env start).1 = next at hperforms
  generalize (step.perform env start).2 = outcome at hperforms
  cases hperforms with
  | @unresolved type rejection hresolved =>
      have hnone : type.discovered env = [] := by simp [TypeRef.discovered, hresolved]
      rw [openings, hnone, Emission.openings]
      exact .of_eq rfl
  | map hresolved hbelow =>
      rw [openings, roots, TypeRef.discovered_of_resolve hresolved]
      exact hbelow.opens.of_notes
  | ensure hemitted => exact hemitted.opens

/-- The names of what a step asks to be emitted stand in its type. -/
theorem simpleName_mem_of_mem_roots {step : EmissionStep} {found : TypeRef}
    (hmem : found ∈ step.roots env) (hdeclared : found.isDeclared = true) :
    found.simpleName ∈ step.type.declaredNames := by
  cases step with
  | map type => exact TypeRef.simpleName_mem_of_mem_discovered hmem
  | ensure type =>
      obtain rfl := List.mem_singleton.mp hmem
      exact TypeRef.simpleName_mem_declaredNames hdeclared

end EmissionStep

/-- What happens in a run: records are noted, or a step is taken, which may fail. -/
inductive RunEvent
  | record (log : Log)
  | take (step : EmissionStep)

namespace RunEvent

/-- The state after an event. -/
def next (env : Environment) (start : Emission) : RunEvent → Emission
  | .record log => start.notes log
  | .take step => (step.perform env start).1

/-- The types that an event asks to be emitted. -/
def roots (env : Environment) : RunEvent → List TypeRef
  | .record _ => []
  | .take step => step.roots env

/-- The types whose files are opened in an event, in order. -/
def openings (env : Environment) (start : Emission) : RunEvent → List TypeRef
  | .record _ => []
  | .take step => step.openings env start

/-- The names of the declared types in an event. -/
def declaredNames : RunEvent → List String
  | .record _ => []
  | .take step => step.type.declaredNames

variable {env : Environment}

theorem opens_next (start : Emission) (event : RunEvent) :
    Emission.Opens env (event.roots env) start (event.next env start)
      (event.openings env start) := by
  cases event with
  | record log => exact .of_eq rfl
  | take step => exact step.opens_perform start

theorem moves_next (start : Emission) (event : RunEvent) :
    Emission.Moves start (event.next env start) := by
  cases event with
  | record log => exact .single (Emission.move_notes start log)
  | take step => exact step.moves_perform start

theorem simpleName_mem_of_mem_roots {event : RunEvent} {found : TypeRef}
    (hmem : found ∈ event.roots env) (hdeclared : found.isDeclared = true) :
    found.simpleName ∈ event.declaredNames := by
  cases event with
  | record log => cases hmem
  | take step => exact EmissionStep.simpleName_mem_of_mem_roots hmem hdeclared

end RunEvent

namespace Emission

variable {env : Environment}

/-- The state at the end of a run. -/
def run (env : Environment) (start : Emission) (events : List RunEvent) : Emission :=
  events.foldl (fun emission event => event.next env emission) start

/-- The types whose files are opened in a run, in order. -/
def openedIn (env : Environment) (start : Emission) : List RunEvent → List TypeRef
  | [] => []
  | event :: rest => event.openings env start ++ openedIn env (event.next env start) rest

/-- The composite types whose fields are followed in a run, in order: those whose files are
opened. -/
def followedIn (env : Environment) (start : Emission) (events : List RunEvent) : List TypeRef :=
  (start.openedIn env events).filter fun type => decide (type.kind = .composite)

theorem run_append (start : Emission) (events more : List RunEvent) :
    start.run env (events ++ more) = (start.run env events).run env more :=
  List.foldl_append

/-- A run takes the names of the types whose files it opens, whichever of its steps fail. -/
theorem opens_run (env : Environment) (start : Emission) (events : List RunEvent) :
    Opens env (events.flatMap (RunEvent.roots env)) start (start.run env events)
      (start.openedIn env events) := by
  induction events generalizing start with
  | nil => exact .of_eq rfl
  | cons event rest ih =>
      rw [List.flatMap_cons]
      exact ((event.opens_next start).mono (List.subset_append_left _ _)).trans
        ((ih _).mono (List.subset_append_right _ _))

theorem inStep_run (env : Environment) (events : List RunEvent) :
    InStep (({} : Emission).run env events) := by
  have hmoves : ∀ start : Emission, Moves start (start.run env events) := by
    induction events with
    | nil => exact fun _ => .refl
    | cons event rest ih => exact fun start => (event.moves_next start).trans (ih _)
  exact (hmoves {}).inStep inStep_empty

/-- The fields of a name are followed at most once in a whole run. -/
theorem count_followedIn_le_one (events : List RunEvent) (name : String) :
    (simpleNames (({} : Emission).followedIn env events)).count name ≤ 1 := by
  have hopened : (simpleNames (({} : Emission).openedIn env events)).Nodup := by
    have hnodup := (inStep_run env events).nodup
    rwa [(opens_run env {} events).taken] at hnodup
  refine List.nodup_iff_count_le_one.mp (hopened.sublist ?_) name
  exact List.filter_sublist.map TypeRef.simpleName

/-- Whatever is reached in a run has a name that stands in an event or in a declaration. -/
theorem simpleName_mem_of_reaches {events : List RunEvent} {type : TypeRef}
    (h : env.Reaches (events.flatMap (RunEvent.roots env)) type)
    (hdeclared : type.isDeclared = true) :
    type.simpleName ∈ events.flatMap RunEvent.declaredNames ++ env.declarations.declaredNames := by
  cases h with
  | root member =>
      obtain ⟨event, hevent, hroot⟩ := List.mem_flatMap.mp member
      refine List.mem_append_left _ (List.mem_flatMap.mpr ⟨event, hevent, ?_⟩)
      exact event.simpleName_mem_of_mem_roots hroot hdeclared
  | field reached member =>
      obtain ⟨entry, hentry, field, hfield, hfound⟩ := Environment.mem_successors member
      refine List.mem_append_right _ (List.mem_flatMap.mpr ⟨entry, hentry, ?_⟩)
      refine List.mem_flatMap.mpr ⟨field, hfield, ?_⟩
      exact TypeRef.simpleName_mem_of_mem_discovered hfound

/-- A run adds no more files than there are names in its events and in the declarations. -/
theorem length_files_le (events : List RunEvent) {names : List String}
    (hnames : events.flatMap RunEvent.declaredNames ++ env.declarations.declaredNames ⊆ names) :
    (({} : Emission).run env events).project.files.length ≤ names.eraseDups.length := by
  obtain ⟨hfiles, hnodup⟩ := inStep_run env events
  have hlength := congrArg List.length hfiles
  rw [Project.fileNames, List.length_map, List.length_map] at hlength
  rw [hlength]
  refine (hnodup.subperm fun name hname => ?_).length_le
  obtain ⟨htaken, hdeclared, hreached⟩ := opens_run env {} events
  rw [htaken] at hname
  obtain ⟨type, htype, rfl⟩ := List.mem_map.mp hname
  apply List.mem_eraseDups.mpr
  exact hnames (simpleName_mem_of_reaches (hreached type htype) (hdeclared type htype))

end Emission

end CatalogClient
