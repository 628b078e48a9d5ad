/-
# Runs of map and ensure steps

An emission is driven by two kinds of steps in any order: a type is mapped, which emits whatever it
leads to, or a declared type is ensured to be emitted by itself. A step that fails leaves the state
in which it failed to the steps after it.
-/

import CatalogClient.Emission.Emitting
import CatalogClient.Proofs.Emission.Moves

namespace CatalogClient

variable {env : Environment}

theorem Emitting.emits_of_emit {start next : Emission} {types : List TypeRef}
    {outcome : Except Rejection Unit} (h : Emitting.emit env types start = (next, outcome)) :
    Emission.EmitsAll env start types next outcome := by
  obtain ⟨rfl, rfl⟩ := Prod.mk.inj h
  exact Emission.emitsAll start types

/-- Everything that mapping a type can do: it notes what the resolution notes, and emits what the
target leads to unless the resolution fails. -/
theorem Emitting.map_cases {start next : Emission} {type : TypeRef}
    {outcome : Except Rejection Target} (h : Emitting.map env type start = (next, outcome)) :
    (∃ rejection, (type.resolve env).outcome = .error rejection ∧ outcome = .error rejection ∧
      next = start.notes (type.resolve env).log) ∨
    ∃ target below, (type.resolve env).outcome = .ok target ∧
      outcome = below.map (fun _ => target) ∧
      Emission.EmitsAll env (start.notes (type.resolve env).log) target.discovered next below := by
  unfold Emitting.map at h
  cases hresolve : (type.resolve env).outcome with
  | error rejection =>
      have hlogged : Emitting.ofLogged (type.resolve env) start =
          (start.notes (type.resolve env).log, .error rejection) := by
        rw [Emitting.ofLogged, hresolve]
      rw [Staged.bind_of_error hlogged] at h
      cases h
      exact Or.inl ⟨rejection, rfl, rfl, rfl⟩
  | ok target =>
      have hlogged : Emitting.ofLogged (type.resolve env) start =
          (start.notes (type.resolve env).log, .ok target) := by
        rw [Emitting.ofLogged, hresolve]
      rw [Staged.bind_of_ok hlogged] at h
      rcases hbelow : emit env target.discovered (start.notes (type.resolve env).log)
        with ⟨state, below⟩
      refine Or.inr ⟨target, below, rfl, ?_⟩
      cases below with
      | error rejection =>
          rw [Staged.bind_of_error hbelow] at h
          cases h
          exact ⟨rfl, emits_of_emit hbelow⟩
      | ok done =>
          rw [Staged.bind_of_ok hbelow] at h
          cases h
          exact ⟨rfl, emits_of_emit hbelow⟩

/-- One call that an emission is driven by. -/
inductive EmissionStep
  | map (type : TypeRef)
  | ensure (type : TypeRef)
  deriving DecidableEq

namespace EmissionStep

/-- What a step does to the state, and whether it succeeds. -/
def perform (env : Environment) (step : EmissionStep) (start : Emission) :
    Emission × Except Rejection Unit :=
  match step with
  | .map type =>
      let mapped := Emitting.map env type start
      (mapped.1, mapped.2.map fun _ => ())
  | .ensure type => Emitting.emit env [type] start

/-- The types that a step asks to be emitted. -/
def roots (env : Environment) : EmissionStep → List TypeRef
  | .map type => type.discovered env
  | .ensure type => [type]

/-- Whether the type that a step maps resolves. -/
def resolves (env : Environment) : EmissionStep → Bool
  | .map type => (type.resolve env).outcome.isOk
  | .ensure _ => true

/-- Everything that a step can do: it emits its roots, or it is the mapping of a type that does not
resolve. -/
theorem perform_cases {start next : Emission} {step : EmissionStep}
    {outcome : Except Rejection Unit} (h : step.perform env start = (next, outcome)) :
    (∃ type rejection, step = .map type ∧ (type.resolve env).outcome = .error rejection ∧
      next = start.notes (type.resolve env).log ∧ outcome = .error rejection) ∨
      ∃ log, Emission.EmitsAll env (start.notes log) (step.roots env) next outcome := by
  cases step with
  | map type =>
      obtain ⟨rfl, rfl⟩ := Prod.mk.inj h
      cases hmap : Emitting.map env type start with
      | mk state result =>
          rcases Emitting.map_cases hmap with
            ⟨rejection, hrejected, rfl, rfl⟩ | ⟨target, below, htarget, rfl, hemits⟩
          · exact Or.inl ⟨type, rejection, rfl, hrejected, rfl, rfl⟩
          · rw [← TypeRef.discovered_of_resolve htarget] at hemits
            refine Or.inr ⟨(type.resolve env).log, ?_⟩
            cases below with
            | error rejection => exact hemits
            | ok done => exact hemits
  | ensure type =>
      refine Or.inr ⟨[], ?_⟩
      rw [show start.notes [] = start by simp [Emission.notes]]
      exact Emitting.emits_of_emit h

theorem moves_perform (start : Emission) (step : EmissionStep) :
    Emission.Moves start (step.perform env start).1 := by
  rcases hperform : step.perform env start with ⟨next, outcome⟩
  rcases perform_cases hperform with ⟨type, rejection, -, -, rfl, -⟩ | ⟨log, hemits⟩
  · exact .single (Emission.move_notes start _)
  · exact .head (Emission.move_notes start log) hemits.moves

/-- A step that succeeds extends the state by what the search visits for its roots. -/
theorem extends_perform {start : Emission} {step : EmissionStep}
    (hok : (step.perform env start).2 = .ok ()) :
    Emission.Extends env start (step.perform env start).1
      (env.visits start.registry.taken (step.roots env)) := by
  rcases hperform : step.perform env start with ⟨next, outcome⟩
  rw [hperform] at hok
  rcases perform_cases hperform with ⟨type, rejection, -, -, -, rfl⟩ | ⟨log, hemits⟩
  · cases hok
  · exact (Emission.Extends.of_notes start log).trans (hemits.extends hok)

end EmissionStep

namespace Emission

/-- The state after some steps, failed ones included. -/
def after (env : Environment) (start : Emission) (steps : List EmissionStep) : Emission :=
  steps.foldl (fun emission step => (step.perform env emission).1) start

/-- Whether all steps of a run succeed. -/
def Succeeds (env : Environment) (start : Emission) : List EmissionStep → Prop
  | [] => True
  | step :: rest => (step.perform env start).2 = .ok () ∧
      Succeeds env (step.perform env start).1 rest

theorem after_append (start : Emission) (steps more : List EmissionStep) :
    start.after env (steps ++ more) = (start.after env steps).after env more :=
  List.foldl_append

/-- Every run is a sequence of moves, whichever of its steps fail. -/
theorem moves_after (start : Emission) (steps : List EmissionStep) :
    Moves start (start.after env steps) := by
  induction steps generalizing start with
  | nil => exact .refl
  | cons step rest ih => exact (EmissionStep.moves_perform start step).trans (ih _)

/-- A run succeeds only if all types that its steps map resolve. -/
theorem resolves_of_succeeds {start : Emission} {steps : List EmissionStep}
    (h : Succeeds env start steps) : ∀ step ∈ steps, step.resolves env = true := by
  induction steps generalizing start with
  | nil => simp
  | cons step rest ih =>
      obtain ⟨hstep, hrest⟩ := h
      refine List.forall_mem_cons.mpr ⟨?_, ih hrest⟩
      cases step with
      | ensure type => rfl
      | map type =>
          rcases hmap : Emitting.map env type start with ⟨next, outcome⟩
          rw [EmissionStep.perform, hmap] at hstep
          rcases Emitting.map_cases hmap with ⟨rejection, -, rfl, -⟩ | ⟨target, -, htarget, -, -⟩
          · cases hstep
          · rw [EmissionStep.resolves, htarget]
            rfl

/-- A run whose steps succeed extends the state by what one search visits for the roots of all
steps: where a step ends and the next one begins makes no difference. -/
theorem extends_after {start : Emission} {steps : List EmissionStep}
    (h : Succeeds env start steps) :
    Extends env start (start.after env steps)
      (env.visits start.registry.taken (steps.flatMap (EmissionStep.roots env))) := by
  induction steps generalizing start with
  | nil =>
      rw [List.flatMap_nil, Environment.visits_nil]
      exact .of_eq rfl rfl
  | cons step rest ih =>
      obtain ⟨hstep, hrest⟩ := h
      have hfirst := EmissionStep.extends_perform hstep
      have hothers := ih hrest
      rw [hfirst.taken] at hothers
      rw [List.flatMap_cons, Environment.visits_append]
      exact hfirst.trans hothers

/-- A step succeeds if the type that it maps resolves, and so do all fields below its roots. -/
theorem perform_succeeds {P : TypeRef → Prop} (hsound : env.Sound P) (start : Emission)
    {step : EmissionStep} (hstep : step.resolves env = true)
    (hroots : ∀ root ∈ step.roots env, P root) : (step.perform env start).2 = .ok () := by
  rcases hperform : step.perform env start with ⟨next, outcome⟩
  rcases EmissionStep.perform_cases hperform with
    ⟨type, rejection, rfl, hrejected, -, -⟩ | ⟨log, hemits⟩
  · rw [EmissionStep.resolves, hrejected] at hstep
    cases hstep
  · cases outcome with
    | error rejection => cases hemits.succeeds hsound hroots
    | ok done => rfl

theorem succeeds_of_sound {P : TypeRef → Prop} (hsound : env.Sound P) (start : Emission)
    {steps : List EmissionStep} (hsteps : ∀ step ∈ steps, step.resolves env = true)
    (hroots : ∀ step ∈ steps, ∀ root ∈ step.roots env, P root) : Succeeds env start steps := by
  induction steps generalizing start with
  | nil => trivial
  | cons step rest ih =>
      obtain ⟨hstep, hrest⟩ := List.forall_mem_cons.mp hsteps
      obtain ⟨hroot, hothers⟩ := List.forall_mem_cons.mp hroots
      exact ⟨perform_succeeds hsound start hstep hroot, ih _ hrest hothers⟩

end Emission

namespace Sample

/-- A composite type of the scanned package. -/
def composite (name : String) : TypeRef :=
  .named .composite (some name) (some "app")

/-- An enumeration without a declaration. -/
def role : TypeRef :=
  .named .enumeration (some "Role") (some "app")

/-- Two types that refer to each other, one of them to itself as well. -/
def environment : Environment where
  scope := .ofPackages ["app"]
  declarations := .ofList [
    { name := "Node", package := some "app", fields := [
      { name := "next", type := composite "Node" },
      { name := "owner", type := composite "User" }] },
    { name := "User", package := some "app", fields := [
      { name := "nodes", type := { kind := .array, component := some (composite "Node") } },
      { name := "role", type := role }] }]

/-- Steps that ask for both types by themselves, although each leads to the other. -/
def steps : List EmissionStep :=
  [.ensure (composite "Node"), .map (composite "User")]

theorem resolvable : environment.Resolvable := by decide

theorem succeeds : Emission.Succeeds environment {} steps :=
  Emission.succeeds_of_sound resolvable.sound {} (by decide) fun _ _ _ _ => trivial

/-- The search goes from one type to the other and does not come back. -/
theorem visits_cons (rest : List TypeRef) :
    environment.visits [] (composite "Node" :: rest) =
      composite "Node" :: composite "User" :: role ::
        environment.visits ["Node", "User", "Role"] rest := by
  have hnode : environment.successors (composite "Node") =
      [composite "Node", composite "User"] := by
    decide
  have huser : environment.successors (composite "User") = [composite "Node", role] := by decide
  have hrole : environment.successors role = [] := by decide
  rw [Environment.visits_cons_of_fresh _ (by decide) (by decide), hnode,
    Environment.visits_cons_of_passed _ (by decide),
    Environment.visits_cons_of_fresh _ (by decide) (by decide), huser,
    Environment.visits_cons_of_passed _ (by decide),
    Environment.visits_cons_of_fresh _ (by decide) (by decide), hrole]
  simp only [Environment.visits_nil]
  rfl

end Sample

namespace Emission

/-- Registry and files stay in step: after any steps, failed ones included, the files are those of
the registered names in the order of their registration, and none repeats. Whatever is registered
stays registered with its origin. As long as no step has failed, every file holds one definition,
which it is named for. -/
theorem registry_and_files_in_step (env : Environment) (steps more : List EmissionStep) :
    let emission := ({} : Emission).after env steps
    let later := ({} : Emission).after env (steps ++ more)
    emission.project.fileNames = emission.registry.taken.map fileName ∧
      emission.project.fileNames.Nodup ∧
      emission.registry.taken <+: later.registry.taken ∧
      (∀ name ∈ emission.registry.taken, ∃ origin,
        emission.registry.originOf name = some origin ∧
          later.registry.originOf name = some origin) ∧
      (Succeeds env {} steps → ∀ file ∈ emission.project.files, ∃ definition,
        file.definitions = [definition] ∧ file.name = fileName definition.name) := by
  intro emission later
  have hmoves : Moves {} emission := moves_after {} steps
  obtain ⟨hnames, hnodup⟩ := hmoves.inStep inStep_empty
  have hgrow : emission.registry.entries <+: later.registry.entries := by
    rw [show later = emission.after env more from after_append {} steps more]
    exact (moves_after emission more).entries_grow
  refine ⟨hnames, ?_, Registry.taken_grow hgrow, fun name htaken => ?_, fun h file hfile => ?_⟩
  · rw [hnames]
    exact nodup_fileNames hnodup
  · obtain ⟨origin, horigin⟩ := Registry.originOf_of_mem_taken htaken
    exact ⟨origin, horigin, by rw [Registry.originOf_of_grow hgrow htaken, horigin]⟩
  · obtain ⟨-, -, files, hfiles, hrender⟩ := extends_after h
    rw [show emission.project.files = files from hfiles] at hfile
    obtain ⟨type, -, hfile⟩ := TypeRef.exists_of_rendered hrender hfile
    obtain ⟨hname, hdefinitions⟩ := TypeRef.names_of_sourceFile hfile
    obtain ⟨definition, hdefinition, hown⟩ := List.map_eq_singleton_iff.mp hdefinitions
    exact ⟨definition, hdefinition, by rw [hname, hown]⟩

theorem registry_and_files_in_step_sample :
    Succeeds Sample.environment {} Sample.steps ∧
      ∀ file ∈ (({} : Emission).after Sample.environment Sample.steps).project.files,
        ∃ definition, file.definitions = [definition] ∧ file.name = fileName definition.name := by
  obtain ⟨-, -, -, -, hdefinitions⟩ :=
    registry_and_files_in_step Sample.environment Sample.steps []
  exact ⟨Sample.succeeds, hdefinitions Sample.succeeds⟩

/-- A run refines the rendering of single types. The registered names are those of the visited
types, in order, and the file of a name is what is rendered for the type that was the first to take
it: the declarations and the scanned packages decide it, and nothing that was emitted before, in
between or after. -/
theorem files_eq_renderings {steps : List EmissionStep} (h : Succeeds env {} steps) :
    let emission := ({} : Emission).after env steps
    let visited := env.visits [] (steps.flatMap (EmissionStep.roots env))
    emission.registry.entries = visited.map TypeRef.entry ∧
      visited.map (TypeRef.sourceFile env) = emission.project.files.map .ok ∧
      ∀ name ∈ emission.registry.taken, ∃ type file,
        visited.find? (fun type => decide (type.simpleName = name)) = some type ∧
          emission.project.file? (fileName name) = some file ∧
          type.sourceFile env = .ok file := by
  intro emission visited
  obtain ⟨hentries, -, files, hfiles, hrender⟩ := extends_after h
  have hown : emission.project.files = files := hfiles
  refine ⟨hentries, by rw [hown]; exact hrender, fun name htaken => ?_⟩
  have hvisited : ∃ type ∈ visited, type.simpleName = name := by
    rw [(extends_after h).taken] at htaken
    exact List.mem_map.mp htaken
  obtain ⟨type, hfound⟩ : ∃ type,
      visited.find? (fun type => decide (type.simpleName = name)) = some type := by
    rw [← Option.isSome_iff_exists, List.find?_isSome]
    simpa using hvisited
  obtain ⟨file, hfile, hrendered⟩ := TypeRef.find?_of_rendered hrender hfound
  exact ⟨type, file, hfound, by rw [Project.file?, hown]; exact hfile, hrendered⟩

theorem files_eq_renderings_sample :
    Succeeds Sample.environment {} Sample.steps ∧
      [Sample.composite "Node", Sample.composite "User", Sample.role].map
          (TypeRef.sourceFile Sample.environment) =
        (({} : Emission).after Sample.environment Sample.steps).project.files.map .ok := by
  obtain ⟨-, hrender, -⟩ := files_eq_renderings Sample.succeeds
  have hroots : Sample.steps.flatMap (EmissionStep.roots Sample.environment) =
      [Sample.composite "Node", Sample.composite "User"] := by decide
  rw [hroots, Sample.visits_cons, Environment.visits_cons_of_passed _ (by decide),
    Environment.visits_nil] at hrender
  exact ⟨Sample.succeeds, hrender⟩

end Emission

end CatalogClient
