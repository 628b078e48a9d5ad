/-
# What a failed step leaves behind

A walk registers a name and adds a file before it follows the fields of the type, so that types that
refer to each other are emitted once. Nothing is taken back when a field does not resolve: the types
that the search had come to are registered, and the files of those that were still being followed
stay empty. These are the types on the way from the one that was asked for to the one with the
unresolved field. Since their names are taken, no later step finishes their files.
-/

import CatalogClient.Proofs.Emission.Decision
import CatalogClient.Proofs.Emission.Stops

namespace CatalogClient

variable {env : Environment}

/-- The types from one of some types down to a type with an unresolved field, where each leads to
the next one by a field. -/
inductive Environment.BreaksOff (env : Environment) (rejection : Rejection) :
    List TypeRef → List TypeRef → Prop
  | here {types : List TypeRef} {owner : TypeRef} (member : owner ∈ types)
      (stops : env.StopsAt rejection owner) : env.BreaksOff rejection types [owner]
  | field {types path : List TypeRef} {owner : TypeRef} (member : owner ∈ types)
      (rest : env.BreaksOff rejection (env.successors owner) path) :
      env.BreaksOff rejection types (owner :: path)

namespace Environment.BreaksOff

variable {rejection : Rejection} {types path : List TypeRef}

theorem mono {others : List TypeRef} (h : env.BreaksOff rejection types path)
    (hsubset : types ⊆ others) : env.BreaksOff rejection others path := by
  cases h with
  | here member stops => exact .here (hsubset member) stops
  | field member rest => exact .field (hsubset member) rest

theorem ne_nil (h : env.BreaksOff rejection types path) : path ≠ [] := by
  cases h <;> exact List.cons_ne_nil _ _

end Environment.BreaksOff

/-- The file that is there for a type when a walk breaks off: an empty one if the type is still
being followed, and otherwise the finished one. -/
def TypeRef.leftFile (env : Environment) (unfinished : List TypeRef) (type : TypeRef) :
    Except Rejection SourceFile :=
  if type ∈ unfinished then .ok { name := Emission.fileName type.simpleName }
  else type.sourceFile env

namespace Emission

/-- A walk through some types broke off. It had opened the first ones of the types that the search
visits, each with its entry and its file, and some of these are unfinished. -/
structure Interrupted (env : Environment) (start : Emission) (types : List TypeRef)
    (next : Emission) (opened unfinished : List TypeRef) : Prop where
  visited : opened <+: env.visits start.registry.taken types
  entries : next.registry.entries = start.registry.entries ++ opened.map TypeRef.entry
  nameless : next.registry.nameless = start.registry.nameless
  files : ∃ files, next.project.files = start.project.files ++ files ∧
    opened.map (TypeRef.leftFile env unfinished) = files.map .ok
  unfinished : unfinished.Sublist opened

namespace Interrupted

variable {start middle next : Emission} {types others opened unfinished : List TypeRef}

/-- A walk that breaks off at its first field has opened nothing. -/
theorem of_eq (hregistry : next.registry = start.registry)
    (hproject : next.project = start.project) : Interrupted env start types next [] [] where
  visited := List.nil_prefix
  entries := by simp [hregistry]
  nameless := by rw [hregistry]
  files := ⟨[], by simp [hproject], rfl⟩
  unfinished := List.Sublist.refl _

/-- Records do not matter. -/
theorem of_notes {log : Log}
    (h : Interrupted env (start.notes log) types next opened unfinished) :
    Interrupted env start types next opened unfinished :=
  ⟨h.visited, h.entries, h.nameless, h.files, h.unfinished⟩

theorem fresh (h : Interrupted env start types next opened unfinished) :
    ∀ type ∈ opened, type.simpleName ∉ start.registry.taken := fun type hmem =>
  Environment.simpleName_not_mem_of_mem_visits type (h.visited.subset hmem)

/-- What comes after the break makes no difference. -/
theorem append (h : Interrupted env start types next opened unfinished)
    (others : List TypeRef) : Interrupted env start (types ++ others) next opened unfinished where
  visited := by
    rw [Environment.visits_append]
    exact h.visited.trans (List.prefix_append _ _)
  entries := h.entries
  nameless := h.nameless
  files := h.files
  unfinished := h.unfinished

/-- What was emitted before the break is finished: its names were taken when the unfinished types
were opened. -/
theorem after_extends (hbefore : Extends env start middle (env.visits start.registry.taken types))
    (h : Interrupted env middle others next opened unfinished) :
    Interrupted env start (types ++ others) next
      (env.visits start.registry.taken types ++ opened) unfinished where
  visited := by
    rw [Environment.visits_append]
    refine (List.prefix_append_right_inj _).mpr ?_
    have hvisited := h.visited
    rwa [hbefore.taken] at hvisited
  entries := by rw [h.entries, hbefore.entries]; simp
  nameless := h.nameless.trans hbefore.nameless
  files := by
    obtain ⟨files, hfiles, hrender⟩ := hbefore.files
    obtain ⟨files', hfiles', hleft⟩ := h.files
    refine ⟨files ++ files', by rw [hfiles', hfiles, List.append_assoc], ?_⟩
    rw [List.map_append, List.map_append, hleft, ← hrender]
    refine congrArg (· ++ _) (List.map_congr_left fun type hmem => if_neg fun hopen => ?_)
    apply h.fresh type (h.unfinished.subset hopen)
    rw [hbefore.taken]
    exact List.mem_append_right _ (simpleName_mem_simpleNames hmem)
  unfinished := h.unfinished.trans (List.sublist_append_right _ _)

/-- A type whose fields were being followed is open, with an empty file before those below it. -/
theorem of_opened {type : TypeRef} (hdeclared : type.isDeclared = true)
    (hopened : start.opened? type = some middle)
    (h : Interrupted env middle (env.successors type) next opened unfinished) :
    Interrupted env start [type] next (type :: opened) (type :: unfinished) where
  visited := by
    have hvisited := h.visited
    rw [(taken_of_opened? hopened).2] at hvisited
    rw [Environment.visits_cons_of_fresh [] hdeclared (opened?_eq_some hopened).1,
      Environment.visits_nil, List.append_nil]
    exact List.cons_prefix_cons.mpr ⟨rfl, hvisited⟩
  entries := by rw [h.entries, (opened?_eq_some hopened).2.1]; simp
  nameless := h.nameless.trans (opened?_eq_some hopened).2.2.1
  files := by
    obtain ⟨files, hfiles, hleft⟩ := h.files
    refine ⟨{ name := fileName type.simpleName } :: files, ?_, ?_⟩
    · rw [hfiles, (opened?_eq_some hopened).2.2.2, List.append_assoc]
      rfl
    · rw [List.map_cons, List.map_cons, ← hleft]
      refine congrArg₂ _ (if_pos List.mem_cons_self) (List.map_congr_left fun other hother => ?_)
      have hne : other ≠ type := by
        rintro rfl
        apply h.fresh other hother
        rw [(taken_of_opened? hopened).2]
        exact List.mem_append_right _ List.mem_cons_self
      simp only [TypeRef.leftFile, List.mem_cons, hne, false_or]
  unfinished := h.unfinished.cons_cons type

end Interrupted

/-- A state that is extended by nothing is the same but for its records. -/
theorem Extends.same {start next : Emission} (h : Extends env start next []) :
    next.registry = start.registry ∧ next.project = start.project := by
  obtain ⟨files, hfiles, hrender⟩ := h.files
  obtain rfl : files = [] := by simpa using hrender.symm
  have hentries : next.registry.entries = start.registry.entries := by
    rw [h.entries, List.map_nil, List.append_nil]
  rw [List.append_nil] at hfiles
  exact ⟨congrArg₂ Registry.mk hentries h.nameless, congrArg Project.mk hfiles⟩

mutual

/-- A list of types whose emission fails is left where the walk broke off. -/
theorem EmitsAll.breaksOff {start next : Emission} {types : List TypeRef}
    {outcome : Except Rejection Unit} {rejection : Rejection}
    (h : EmitsAll env start types next outcome) (herror : outcome = .error rejection) :
    ∃ opened unfinished, Interrupted env start types next opened unfinished ∧
      env.BreaksOff rejection types unfinished := by
  match h with
  | .nil => cases herror
  | .stop first =>
      obtain rfl := Except.error.inj herror
      obtain ⟨opened, unfinished, hleft, hbreaks⟩ := first.breaksOff rfl
      exact ⟨opened, unfinished, hleft.append _, hbreaks.mono (by simp)⟩
  | .cons first others =>
      obtain ⟨opened, unfinished, hleft, hbreaks⟩ := others.breaksOff herror
      exact ⟨_, unfinished, hleft.after_extends (first.extends rfl), hbreaks.mono (by simp)⟩

theorem Emits.breaksOff {start next : Emission} {type : TypeRef}
    {outcome : Except Rejection (Option String)} {rejection : Rejection}
    (h : Emits env start type next outcome) (herror : outcome = .error rejection) :
    ∃ opened unfinished, Interrupted env start [type] next opened unfinished ∧
      env.BreaksOff rejection [type] unfinished := by
  match h with
  | .passed _ | .taken _ _ | .enumeration _ _ | .undeclared _ _ _ | .interface _ _ _ _ =>
      cases herror
  | .unfinished kind hopened found members =>
      obtain rfl := Except.error.inj herror
      have hdeclared : type.isDeclared = true := by simp [TypeRef.isDeclared, kind]
      obtain ⟨opened, unfinished, hleft, hreason⟩ := members.breaksOff rfl
      rw [← Environment.successors_of_find? kind found] at hleft hreason
      refine ⟨_, _, hleft.of_opened hdeclared hopened, ?_⟩
      rcases hreason with ⟨rfl, field, hfield, hfailed⟩ | hbreaks
      · exact .here List.mem_cons_self ⟨kind, _, found, field, hfield, hfailed⟩
      · exact .field List.mem_cons_self hbreaks

theorem Follows.breaksOff {start next : Emission} {owner : String} {fields : List Field}
    {members : List Argument} {imports : List String}
    {outcome : Except Rejection (List Argument × List String)} {rejection : Rejection}
    (h : Follows env start owner fields members imports next outcome)
    (herror : outcome = .error rejection) :
    ∃ opened unfinished,
      Interrupted env start (fields.flatMap (Field.discovered env)) next opened unfinished ∧
        ((unfinished = [] ∧
            ∃ field ∈ fields, (field.type.resolve env).outcome = .error rejection) ∨
          env.BreaksOff rejection (fields.flatMap (Field.discovered env)) unfinished) := by
  match h with
  | .done => cases herror
  | .unresolved resolved =>
      obtain rfl := Except.error.inj herror
      exact ⟨[], [], .of_eq rfl rfl, Or.inl ⟨rfl, _, List.mem_cons_self, resolved⟩⟩
  | .blocked resolved below =>
      obtain rfl := Except.error.inj herror
      obtain ⟨opened, unfinished, hleft, hbreaks⟩ := below.breaksOff rfl
      rw [List.flatMap_cons, discovered_of_resolve resolved]
      exact ⟨opened, unfinished, hleft.of_notes.append _, Or.inr (hbreaks.mono (by simp))⟩
  | .field resolved below others =>
      obtain ⟨opened, unfinished, hleft, hreason⟩ := others.breaksOff herror
      rw [List.flatMap_cons, discovered_of_resolve resolved]
      have hbefore := (Extends.of_notes start _).trans (below.extends rfl)
      refine ⟨_, unfinished, hleft.after_extends hbefore, ?_⟩
      rcases hreason with ⟨hnone, field, hfield, hfailed⟩ | hbreaks
      · exact Or.inl ⟨hnone, field, List.mem_cons_of_mem _ hfield, hfailed⟩
      · exact Or.inr (hbreaks.mono (by simp))

end

end Emission

/-- A search for types whose names are taken visits nothing. -/
theorem Environment.visits_eq_nil {seen : List String} {types : List TypeRef}
    (h : ∀ type ∈ types, type.simpleName ∈ seen) : env.visits seen types = [] := by
  induction types with
  | nil => exact visits_nil seen
  | cons type rest ih =>
      obtain ⟨htype, hrest⟩ := List.forall_mem_cons.mp h
      rw [visits_cons_of_passed rest fun hfresh => hfresh.2 htype, ih hrest]

namespace EmissionStep

variable {start : Emission} {step : EmissionStep} {rejection : Rejection}

/-- A step emits its roots unless it maps a type that does not resolve. -/
theorem emits_of_resolves (start : Emission) (hresolves : step.resolves env = true) :
    ∃ log, Emission.EmitsAll env (start.notes log) (step.roots env) (step.perform env start).1
      (step.perform env start).2 := by
  rcases perform_cases (Prod.eta (step.perform env start)).symm with
    ⟨type, rejection, rfl, hrejected, -, -⟩ | hemits
  · rw [resolves, hrejected] at hresolves
    cases hresolves
  · exact hemits

/-- The mapping of a type that does not resolve fails in one way from every state, and leaves
registry and project alone. -/
theorem perform_of_not_resolves (hresolves : step.resolves env = false) :
    ∃ rejection, ∀ start, (step.perform env start).2 = .error rejection ∧
      (step.perform env start).1.registry = start.registry ∧
      (step.perform env start).1.project = start.project := by
  cases step with
  | ensure type => cases hresolves
  | map type =>
      cases hresolve : (type.resolve env).outcome with
      | ok target =>
          rw [resolves, hresolve] at hresolves
          cases hresolves
      | error rejection =>
          refine ⟨rejection, fun start => ?_⟩
          have hperform : (EmissionStep.map type).perform env start =
              (start.notes (type.resolve env).log, .error rejection) :=
            performs_iff.mp (.unresolved hresolve)
          rw [hperform]
          exact ⟨rfl, rfl, rfl⟩

/-- A step that fails though its type resolves is left where the walk broke off. -/
theorem breaksOff (hresolves : step.resolves env = true)
    (h : (step.perform env start).2 = .error rejection) :
    ∃ opened unfinished,
      Emission.Interrupted env start (step.roots env) (step.perform env start).1 opened
          unfinished ∧
        env.BreaksOff rejection (step.roots env) unfinished := by
  obtain ⟨log, hemits⟩ := emits_of_resolves start hresolves
  obtain ⟨opened, unfinished, hleft, hbreaks⟩ := hemits.breaksOff h
  exact ⟨opened, unfinished, hleft.of_notes, hbreaks⟩

/-- A step that asks for types with taken names only succeeds without a change. -/
theorem idle (hresolves : step.resolves env = true)
    (htaken : ∀ root ∈ step.roots env, root.simpleName ∈ start.registry.taken) :
    (step.perform env start).2 = .ok () ∧
      (step.perform env start).1.registry = start.registry ∧
      (step.perform env start).1.project = start.project := by
  obtain ⟨log, hemits⟩ := emits_of_resolves start hresolves
  have hnone : env.visits start.registry.taken (step.roots env) = [] :=
    Environment.visits_eq_nil htaken
  cases houtcome : (step.perform env start).2 with
  | error rejection =>
      obtain ⟨owner, howner, -⟩ := hemits.stops houtcome
      rw [Emission.registry_notes, hnone] at howner
      cases howner
  | ok done =>
      have hextends := hemits.extends houtcome
      rw [Emission.registry_notes, hnone] at hextends
      exact ⟨rfl, hextends.same⟩

/-- No step takes an entry or a file back, or changes one, whether it fails or not. -/
theorem grows (env : Environment) (start : Emission) (step : EmissionStep) :
    start.registry.entries <+: (step.perform env start).1.registry.entries ∧
      start.project.files <+: (step.perform env start).1.project.files := by
  cases hresolves : step.resolves env with
  | false =>
      obtain ⟨rejection, hunchanged⟩ := perform_of_not_resolves hresolves
      obtain ⟨-, hregistry, hproject⟩ := hunchanged start
      rw [hregistry, hproject]
      exact ⟨List.prefix_refl _, List.prefix_refl _⟩
  | true =>
      cases houtcome : (step.perform env start).2 with
      | error rejection =>
          obtain ⟨opened, unfinished, hleft, -⟩ := breaksOff hresolves houtcome
          obtain ⟨files, hfiles, -⟩ := hleft.files
          exact ⟨⟨_, hleft.entries.symm⟩, ⟨files, hfiles.symm⟩⟩
      | ok done =>
          have hextends := extends_perform houtcome
          obtain ⟨files, hfiles, -⟩ := hextends.files
          exact ⟨⟨_, hextends.entries.symm⟩, ⟨files, hfiles.symm⟩⟩

end EmissionStep

namespace Emission

/-- Whatever is there after some steps stays there as it is, whichever steps come later. -/
theorem grows_after (env : Environment) (start : Emission) (steps : List EmissionStep) :
    start.registry.entries <+: (start.after env steps).registry.entries ∧
      start.project.files <+: (start.after env steps).project.files := by
  induction steps generalizing start with
  | nil => exact ⟨List.prefix_refl _, List.prefix_refl _⟩
  | cons step rest ih =>
      obtain ⟨hentries, hfiles⟩ := EmissionStep.grows env start step
      obtain ⟨hentries', hfiles'⟩ := ih (step.perform env start).1
      exact ⟨hentries.trans hentries', hfiles.trans hfiles'⟩

end Emission

namespace Sample

/-- A summary leads to an enumeration and then to a report, and the report has a field that does not
resolve: a generic type whose raw type has a package and no name. -/
def reports : Environment where
  scope := .ofPackages ["app"]
  declarations := .ofList [
    { name := "Summary", package := some "app", fields := [
      { name := "role", type := role },
      { name := "report", type := composite "Report" }] },
    { name := "Report", package := some "app", fields := [
      { name := "page", type := {
          kind := .parameterized
          rawKind := some .other
          raw := some { package := some "app" }
          arguments := [{ kind := .string }] } }] }]

/-- The state after the emission of the report has failed. -/
def reportLeft : Emission where
  registry := { entries := [("Report", "app.Report")] }
  project := { files := [{ name := "Report.ts" }] }

/-- The state after the emission of the summary has failed: only the file in between is finished. -/
def summaryLeft : Emission where
  registry := { entries := [("Summary", "app.Summary"), ("Role", "app.Role"),
    ("Report", "app.Report")] }
  project := { files := [{ name := "Summary.ts" },
    { name := "Role.ts", definitions := [.enumeration { name := "Role", constants := [] }] },
    { name := "Report.ts" }] }
  log := [⟨.debug, "Emitted enum Role (0 constants)"⟩]

theorem perform_report :
    (EmissionStep.ensure (composite "Report")).perform reports {} =
      (reportLeft, .error TypeRef.namelessRejection) := by
  apply EmissionStep.performs_iff.mp
  exact .ensure (.stop (.unfinished rfl rfl rfl (.unresolved rfl)))

theorem perform_summary :
    (EmissionStep.ensure (composite "Summary")).perform reports {} =
      (summaryLeft, .error TypeRef.namelessRejection) := by
  apply EmissionStep.performs_iff.mp
  refine .ensure (.stop (.unfinished rfl rfl rfl ?_))
  refine .field rfl (.cons (.enumeration rfl rfl) .nil) ?_
  exact .blocked rfl (.stop (.unfinished rfl rfl rfl (.unresolved rfl)))

end Sample

namespace Emission

/-- A step that fails takes nothing back. If it is the mapping of a type that does not resolve, then
registry and project are as they were, and a later call fails in the same way; this is the only such
case. Otherwise the first types that the search visits are registered and have files after those
that were there: finished ones, but for the types on the way to the unresolved field, whose files
are empty. All of it stays: a step that asks for types with such names again succeeds without a
change, and no further steps take an entry or a file back or finish one. -/
theorem interruption_takes_nothing_back {start : Emission} {step : EmissionStep}
    {rejection : Rejection} (h : (step.perform env start).2 = .error rejection) :
    let next := (step.perform env start).1
    ((next.registry = start.registry ∧ next.project = start.project) ↔
        step.resolves env = false) ∧
      (step.resolves env = false → ∀ later, (step.perform env later).2 = .error rejection) ∧
      (step.resolves env = true → ∃ opened unfinished,
        Interrupted env start (step.roots env) next opened unfinished ∧
          env.BreaksOff rejection (step.roots env) unfinished) ∧
      (∀ again : EmissionStep, again.resolves env = true →
        (∀ root ∈ again.roots env, root.simpleName ∈ next.registry.taken) →
          (again.perform env next).2 = .ok () ∧
            (again.perform env next).1.registry = next.registry ∧
            (again.perform env next).1.project = next.project) ∧
      ∀ more, next.registry.entries <+: (next.after env more).registry.entries ∧
        next.project.files <+: (next.after env more).project.files := by
  intro next
  refine ⟨⟨fun hsame => ?_, fun hresolves => ?_⟩, fun hresolves later => ?_,
    fun hresolves => EmissionStep.breaksOff hresolves h, fun again => EmissionStep.idle,
    grows_after env next⟩
  · rw [← Bool.not_eq_true]
    intro hresolves
    obtain ⟨opened, unfinished, hleft, hbreaks⟩ := EmissionStep.breaksOff hresolves h
    have hentries := hleft.entries
    rw [show (step.perform env start).1.registry = start.registry from hsame.1] at hentries
    obtain rfl : opened = [] := by simpa using hentries
    exact hbreaks.ne_nil (List.sublist_nil.mp hleft.unfinished)
  · obtain ⟨reason, hunchanged⟩ := EmissionStep.perform_of_not_resolves hresolves
    exact (hunchanged start).2
  · obtain ⟨reason, hunchanged⟩ := EmissionStep.perform_of_not_resolves hresolves
    rw [(hunchanged later).1, ← (hunchanged start).1, h]

/-- The finished file and the two empty ones are there for good. -/
theorem interruption_takes_nothing_back_sample :
    ((EmissionStep.ensure (Sample.composite "Summary")).perform Sample.reports {}).2 =
        .error TypeRef.namelessRejection ∧
      (∃ opened unfinished,
        Interrupted Sample.reports {} [Sample.composite "Summary"] Sample.summaryLeft opened
            unfinished ∧
          Sample.reports.BreaksOff TypeRef.namelessRejection [Sample.composite "Summary"]
            unfinished) ∧
      ∀ more, Sample.summaryLeft.project.files <+:
        (Sample.summaryLeft.after Sample.reports more).project.files := by
  have hfailed := congrArg Prod.snd Sample.perform_summary
  have h := interruption_takes_nothing_back hfailed
  rw [Sample.perform_summary] at h
  obtain ⟨-, -, hleft, -, hgrows⟩ := h
  exact ⟨hfailed, hleft rfl, fun more => (hgrows more).2⟩

/-- A failed emission does not leave the state as it was: the name of the report stays registered,
its file stays empty, and a second call does not try again. -/
theorem interruption_keeps_name :
    let ensured := EmissionStep.ensure (Sample.composite "Report")
    let next := (ensured.perform Sample.reports {}).1
    (ensured.perform Sample.reports {}).2 = .error TypeRef.namelessRejection ∧
      next.registry ≠ ({} : Emission).registry ∧ next.project ≠ ({} : Emission).project ∧
      next.registry.entries = [("Report", "app.Report")] ∧
      next.project.files = [{ name := "Report.ts" }] ∧
      (ensured.perform Sample.reports next).2 = .ok () := by
  intro ensured next
  have hnext : next = Sample.reportLeft := congrArg Prod.fst Sample.perform_report
  rw [hnext, Sample.perform_report]
  refine ⟨rfl, by decide, by decide, rfl, rfl, ?_⟩
  exact (EmissionStep.idle rfl (by decide)).1

end Emission

end CatalogClient
