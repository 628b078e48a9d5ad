/-
# What a run that ends early leaves behind

The whole client is generated before its first file is written, and a repository is told of it only
after its last file is. So a run that fails before it saves anything leaves the files as they were,
and no run that fails has published anything. What the repository answers has no part in the client.
-/

import CatalogClient.Proofs.Command.Saving
import CatalogClient.Proofs.Repository.Containment

namespace CatalogClient

namespace Sample

/-- The settings with a remote repository. -/
def gitSettings : Settings := { settings with gitUrl := some (.string "git.example") }

/-- A reason to refuse an action that is caught. -/
def refusal (operation : GitOperation) : GitFailure :=
  if operation = .openExisting then .noRepository else .exitCode 128

/-- The surroundings with a repository that refuses everything. -/
def refusing : Surroundings :=
  ⟨surroundings.web, { failure := fun operation => some (refusal operation) }⟩

theorem isCaught_refusing : refusing.git.IsCaught := by
  intro operation failure hfailure
  obtain rfl := Option.some.inj hfailure
  cases operation <;> rfl

def gitSynchronizer : Synchronizer where
  directory := "ts"
  remoteUrl := some (.string "git.example")

theorem around_refused :
    (gitSynchronizer.prepare refusing.git session).session.FindsAround ⟨session.files, {}⟩ :=
  ⟨rfl, rfl⟩

end Sample

namespace Command

open Session (OpensOnly SameFiles)

variable {surroundings : Surroundings} {settings : Settings} {start next ended : Session}
  {project : Project}

/-- The files and the machine of a session. -/
def resolverOf (session : Session) : Resolver :=
  ⟨session.files, session.machine⟩

/-- The client of the settings for a catalog that was loaded or not. -/
def clientOf (settings : Settings) (loaded : Except LoadFault Catalog) :
    Except RunFault Project := do
  let catalog ← loaded.mapError .loading
  let packages ← match settings.packages.parts? with
    | some packages => pure packages
    | none => throw (.settings .wrongKind)
  let generated ← (generateFor catalog packages).outcome
  return generated.project

/-- The client of the settings for the files as they are, on a machine. -/
def clientFrom (web : Web) (settings : Settings) (resolver : Resolver) :
    Except RunFault Project := do
  let url ← settings.urlText.mapError .settings
  clientOf settings (Catalog.load web resolver.files url resolver.machine).outcome

theorem clientFrom_congr {web : Web} {resolver other : Resolver}
    (hload : ∀ url, settings.urlText = .ok url →
      (Catalog.load web other.files url other.machine).outcome =
        (Catalog.load web resolver.files url resolver.machine).outcome) :
    clientFrom web settings other = clientFrom web settings resolver :=
  Except.bind_congr fun url hurl =>
    congrArg (clientOf settings) (hload url (Except.mapError_eq_ok_iff.mp hurl))

/-- The files and the machine say which client is generated; what was reported or asked for before
does not. -/
theorem settles_generate (web : Web) (settings : Settings) (resolver : Resolver) :
    Staged.Settles (·.FindsAround resolver) (generate web settings)
      (clientFrom web settings resolver) := by
  unfold generate clientFrom clientOf
  apply Staged.Settles.after (Run.settles_print _)
  apply Staged.Settles.after (Run.settles_print _)
  apply Staged.Settles.bind (Run.settles_ofExcept _)
  intro url
  apply Staged.Settles.after Run.settles_files
  apply Staged.Settles.after Run.settles_machine
  apply Staged.Settles.bind (Run.settles_ofLogged _)
  intro catalog
  apply Staged.Settles.after (Run.settles_print _)
  have hrest : ∀ packages, Staged.Settles (·.FindsAround resolver)
      (do return (← Run.ofLogged (generateFor catalog packages)).project : Run RunFault Project)
      (do return (← (generateFor catalog packages).outcome).project) :=
    fun _ => .bind (Run.settles_ofLogged _) fun _ => .pure _
  cases settings.packages.parts? with
  | none => exact .bind (.throw _) hrest
  | some packages => exact .bind (.pure packages) hrest

theorem outcome_generate (web : Web) (settings : Settings) (start : Session) :
    (generate web settings start).2 = clientFrom web settings (resolverOf start) :=
  (settles_generate web settings (resolverOf start) start ⟨rfl, rfl⟩).2

/-- Saving fails before it changes a file, or because a file cannot be written. -/
theorem saveIn_fails {directory : String} {fault : RunFault}
    (h : saveIn directory project start = (ended, .error fault)) :
    ∃ reason, fault = .saving reason := by
  rw [saveIn_eq] at h
  have houtcome := (Prod.mk.inj h).2
  cases hsaved : (project.save directory start.files).2 with
  | ok _ =>
      rw [hsaved] at houtcome
      cases houtcome
  | error reason =>
      rw [hsaved] at houtcome
      exact ⟨reason, (Except.error.inj houtcome).symm⟩

theorem save_eq_error {fault : RunFault}
    (h : save settings project start = (ended, .error fault)) :
    (∃ reason, fault = .saving reason) ∨
      ended.files = start.files ∧ ∃ reason, settings.directoryText = .error reason := by
  unfold save at h
  rw [Run.print_bind] at h
  cases hdirectory : settings.directoryText with
  | error reason =>
      simp only [hdirectory] at h
      obtain ⟨rfl, -⟩ := Prod.mk.inj h
      exact Or.inr ⟨rfl, reason, rfl⟩
  | ok directory =>
      simp only [hdirectory, Staged.pure_bind] at h
      rcases Staged.bind_eq_error_iff.mp h with hfailed | ⟨saved, _, hsaved, h⟩
      · exact Or.inl (saveIn_fails hfailed)
      · rw [Run.files_bind, Run.print_bind] at h
        cases h

theorem opens_save (settings : Settings) (project : Project) :
    Staged.Effects OpensOnly (save settings project) := by
  have hR := Session.opensOnly_ignoresReports
  have hsaveIn : ∀ directory, Staged.Effects OpensOnly (saveIn directory project) :=
    fun _ _ => .of_actions_eq rfl
  have hrest : ∀ directory, Staged.Effects OpensOnly (do
      saveIn directory project
      let files ← Run.files
      Run.print "✅ Генерация завершена успешно!"
      Run.print ("📦 Клиент создан в: " ++ absolutePath files directory)) := by
    intro directory
    apply Run.keeps_bind hR (hsaveIn directory)
    intro _
    apply Run.keeps_bind hR (Run.keeps_files hR)
    intro _
    exact Run.keeps_bind hR (Run.keeps_print hR _) fun _ => Run.keeps_print hR _
  unfold save
  apply Run.keeps_bind hR (Run.keeps_print hR _)
  intro _
  cases settings.directoryText with
  | ok directory => exact hrest directory
  | error fault =>
      apply Run.keeps_bind hR fun _ => .of_actions_eq rfl
      intro _
      exact Run.keeps_bind hR (Run.keeps_throw hR _) hrest

/-- Generating and saving a client asks nothing of a repository. -/
theorem opens_produce (web : Web) (settings : Settings) :
    Staged.Effects OpensOnly (produce web settings) := by
  have hR := Session.opensOnly_ignoresReports
  apply Run.keeps_bind hR (keeps_generate hR web settings)
  intro project
  exact Run.keeps_bind hR (opens_save settings project) fun _ => Run.keeps_pure hR _

/-- What is produced is the client of the files, and it fails without a change of the files unless a
file cannot be written. -/
theorem produce_eq_error {web : Web} {fault : RunFault}
    (h : produce web settings start = (ended, .error fault)) :
    (∃ reason, fault = .saving reason) ∨ ended.files = start.files := by
  have hkept := keeps_generate Session.sameFiles_ignoresReports web settings start
  rcases Staged.bind_eq_error_iff.mp h with hfailed | ⟨generated, project, hgenerated, h⟩
  · rw [hfailed] at hkept
    exact Or.inr hkept
  · rw [hgenerated] at hkept
    rcases Staged.bind_eq_error_iff.mp h with hfailed | ⟨_, _, -, h⟩
    · rcases save_eq_error hfailed with hreason | ⟨hfiles, -⟩
      · exact Or.inl hreason
      · exact Or.inr (hfiles.trans hkept)
    · cases h

theorem clientFrom_of_produce {web : Web} (h : produce web settings start = (ended, .ok project)) :
    clientFrom web settings (resolverOf start) = .ok project := by
  obtain ⟨generated, client, hgenerated, h⟩ := Staged.bind_eq_ok_iff.mp h
  obtain ⟨_, _, -, h⟩ := Staged.bind_eq_ok_iff.mp h
  obtain rfl := Except.ok.inj (Prod.mk.inj h).2
  rw [← outcome_generate, hgenerated]

/-- The client of the files is produced, unless a file cannot be written. -/
theorem produce_of_clientFrom {web : Web} {directory : String}
    (hclient : clientFrom web settings (resolverOf start) = .ok project)
    (hdirectory : settings.directoryText = .ok directory) :
    (produce web settings start).2 = .ok project ∨
      ∃ reason, (produce web settings start).2 = .error (.saving reason) := by
  rcases hrun : produce web settings start with ⟨ended, outcome⟩
  obtain ⟨generated, hgenerated⟩ : ∃ generated, generate web settings start =
      (generated, .ok project) :=
    ⟨_, Prod.ext rfl ((outcome_generate web settings start).trans hclient)⟩
  cases outcome with
  | ok other =>
      rw [← hclient, clientFrom_of_produce hrun]
      exact Or.inl rfl
  | error fault =>
      rcases Staged.bind_eq_error_iff.mp hrun with hfailed | ⟨_, _, hsame, hfailed⟩
      · cases hgenerated.symm.trans hfailed
      · rcases Staged.bind_eq_error_iff.mp hfailed with hfailed | ⟨_, _, -, h⟩
        · rcases save_eq_error hfailed with ⟨reason, rfl⟩ | ⟨-, reason, hreason⟩
          · exact Or.inr ⟨reason, rfl⟩
          · cases hdirectory.symm.trans hreason
        · cases h

/-- A run with a repository opens it before it produces the client, and publishes the client. -/
theorem run_with_repository {noGit : Bool} (hasked : noGit = false)
    (hused : settings.usesGit = true) :
    run surroundings settings noGit start =
      (Staged.ofExcept ((settings.validate start.files).mapError .settings) >>= fun _ => do
        let synchronizer ← Staged.ofExcept ((synchronizerOf settings).mapError .settings)
        let prepared ← prepare surroundings.git synchronizer
        let project ← produce surroundings.web settings
        publish surroundings.git prepared (settings.commitMessage.getD .absent)
        return project) start := by
  have hon : (!noGit && settings.usesGit) = true := by rw [hasked, hused]; rfl
  unfold run
  rw [Run.files_bind, hon]
  rfl

section Repository

variable {git : GitBehaviour}

theorem session_prepare (git : GitBehaviour) (synchronizer : Synchronizer) (start : Session) :
    (prepare git synchronizer start).1 = (synchronizer.prepare git start).session := by
  unfold prepare
  simp only
  split <;> rfl

theorem opens_prepare (git : GitBehaviour) (synchronizer : Synchronizer) :
    Staged.Effects OpensOnly (prepare git synchronizer) := by
  intro start
  rw [session_prepare]
  exact synchronizer.opens_prepare git start

/-- Nothing that is caught ends a run before the generation. -/
theorem prepare_returns (h : git.IsCaught) (synchronizer : Synchronizer) (start : Session) :
    prepare git synchronizer start = ((synchronizer.prepare git start).session,
      .ok (synchronizer.prepare git start).synchronizer) := by
  obtain ⟨⟨succeeded, hanswer⟩, -⟩ := @Synchronizer.Turn.returns_of_isCaught
    ⟨.prepare, git, start⟩ synchronizer h
  unfold prepare
  simp only [show (synchronizer.prepare git start).answer = .ok succeeded from hanswer]

/-- Nor does it end one after the client is saved. -/
theorem publish_returns (h : git.IsCaught) (synchronizer : Synchronizer) (message : Toml)
    (start : Session) : ∃ ended, publish git synchronizer message start = (ended, .ok ()) := by
  obtain ⟨⟨succeeded, hanswer⟩, -⟩ := @Synchronizer.Turn.returns_of_isCaught
    ⟨.sync message, git, start⟩ synchronizer h
  unfold publish
  simp only [show (synchronizer.sync git message start).answer = .ok succeeded from hanswer]
  cases succeeded <;> exact ⟨_, rfl⟩

end Repository

/-- A run that fails has published nothing, if everything is caught that the repository refuses. -/
theorem run_failsWith_opensOnly (hcaught : surroundings.git.IsCaught) (settings : Settings)
    (noGit : Bool) : Staged.FailsWith OpensOnly (run surroundings settings noGit) := by
  have hR := Session.opensOnly_ignoresReports
  unfold run
  apply Staged.FailsWith.bind hR.trans (Run.keeps_files hR)
  intro files
  apply Staged.FailsWith.bind hR.trans (Run.keeps_ofExcept hR _)
  intro _
  split
  · apply Staged.FailsWith.bind hR.trans (Run.keeps_ofExcept hR _)
    intro synchronizer
    apply Staged.FailsWith.bind hR.trans (opens_prepare surroundings.git synchronizer)
    intro prepared
    apply Staged.FailsWith.bind hR.trans (opens_produce surroundings.web settings)
    intro project start ended fault h
    obtain ⟨published, hpublished⟩ := publish_returns hcaught prepared
      (settings.commitMessage.getD .absent) start
    rw [Staged.bind_of_ok hpublished] at h
    cases h
  · exact (opens_produce surroundings.web settings).failsWith

/-- A run with a repository returns the client of the files that the repository was opened with. -/
theorem clientFrom_of_run {noGit : Bool} (hasked : noGit = false)
    (hused : settings.usesGit = true)
    (h : run surroundings settings noGit start = (ended, .ok project)) :
    ∃ synchronizer, synchronizerOf settings = .ok synchronizer ∧
      clientFrom surroundings.web settings
        (resolverOf (synchronizer.prepare surroundings.git start).session) = .ok project := by
  rw [run_with_repository hasked hused] at h
  obtain ⟨_, _, hvalid, h⟩ := Staged.bind_eq_ok_iff.mp h
  obtain rfl := (Prod.mk.inj hvalid).1
  obtain ⟨_, synchronizer, hplace, h⟩ := Staged.bind_eq_ok_iff.mp h
  obtain ⟨rfl, hfound⟩ := Prod.mk.inj hplace
  obtain ⟨_, prepared, hprepared, h⟩ := Staged.bind_eq_ok_iff.mp h
  obtain rfl := (congrArg Prod.fst hprepared).symm.trans (session_prepare _ _ _)
  obtain ⟨_, client, hproduced, h⟩ := Staged.bind_eq_ok_iff.mp h
  obtain ⟨_, _, -, h⟩ := Staged.bind_eq_ok_iff.mp h
  obtain rfl := Except.ok.inj (Prod.mk.inj h).2
  exact ⟨synchronizer, Except.mapError_eq_ok_iff.mp hfound, clientFrom_of_produce hproduced⟩

theorem directoryText_of_synchronizerOf {synchronizer : Synchronizer}
    (h : synchronizerOf settings = .ok synchronizer) :
    settings.directoryText = .ok synchronizer.directory := by
  unfold synchronizerOf at h
  cases hdirectory : settings.directoryText with
  | error fault =>
      rw [hdirectory] at h
      cases h
  | ok directory =>
      rw [hdirectory] at h
      obtain rfl := Except.ok.inj h
      rfl

/-- A run with a repository returns the client that is produced once the repository is open. -/
theorem run_of_opened {noGit : Bool} {synchronizer : Synchronizer}
    (hcaught : surroundings.git.IsCaught) (hasked : noGit = false)
    (hused : settings.usesGit = true) (hvalid : settings.validate start.files = .ok ())
    (hplace : synchronizerOf settings = .ok synchronizer)
    (hproduced : produce surroundings.web settings
      (synchronizer.prepare surroundings.git start).session = (next, .ok project)) :
    ∃ ended, run surroundings settings noGit start = (ended, .ok project) := by
  obtain ⟨ended, hpublished⟩ := publish_returns hcaught
    (synchronizer.prepare surroundings.git start).synchronizer
    (settings.commitMessage.getD .absent) next
  refine ⟨ended, ?_⟩
  rw [run_with_repository hasked hused]
  simp only [Staged.bind_eq_ok_iff]
  refine ⟨start, (), ?_, start, synchronizer, ?_, _, _, prepare_returns hcaught synchronizer start,
    next, project, hproduced, ended, (), hpublished, rfl⟩
  · exact Prod.ext rfl (Except.mapError_eq_ok_iff.mpr hvalid)
  · exact Prod.ext rfl (Except.mapError_eq_ok_iff.mpr hplace)

/-- What is left of a run that fails, and what a repository has to do with one that returns. Without
a repository, a run that fails for another reason than a file that cannot be written leaves all
files as they were. No run that fails has published anything, if everything is caught that the
repository refuses. And a run with a repository returns the client that a run without one generates
from a session where the same catalog is loaded, whatever the repositories answer. -/
theorem aborted_run_leaves_nothing (surroundings : Surroundings) (settings : Settings)
    (noGit : Bool) (start ended : Session) :
    (noGit = true ∨ settings.usesGit = false → ∀ fault,
      run surroundings settings noGit start = (ended, .error fault) →
        (∀ reason, fault ≠ .saving reason) → ended.files = start.files) ∧
    (surroundings.git.IsCaught → ∀ fault,
      run surroundings settings noGit start = (ended, .error fault) → OpensOnly start ended) ∧
    (noGit = false → settings.usesGit = true → ∀ project,
      run surroundings settings noGit start = (ended, .ok project) →
        ∃ synchronizer, synchronizerOf settings = .ok synchronizer ∧
          ∀ (git : GitBehaviour) (other : Session), settings.validate other.files = .ok () →
            (∀ url, settings.urlText = .ok url →
              (Catalog.load surroundings.web other.files url other.machine).outcome =
                (Catalog.load surroundings.web
                  (synchronizer.prepare surroundings.git start).session.files url
                  (synchronizer.prepare surroundings.git start).session.machine).outcome) →
            (run ⟨surroundings.web, git⟩ settings true other).2 = .ok project ∨
              ∃ reason,
                (run ⟨surroundings.web, git⟩ settings true other).2 = .error (.saving reason)) := by
  refine ⟨fun hoff fault h hsaving => ?_,
    fun hcaught => run_failsWith_opensOnly hcaught settings noGit start ended,
    fun hasked hused project h => ?_⟩
  · rw [run_without_repository hoff] at h
    rcases Staged.bind_eq_error_iff.mp h with hfailed | ⟨_, _, hvalid, h⟩
    · exact congrArg Session.files (Prod.mk.inj hfailed).1.symm
    obtain rfl := (Prod.mk.inj hvalid).1
    rcases produce_eq_error h with ⟨reason, rfl⟩ | hfiles
    · exact absurd rfl (hsaving reason)
    · exact hfiles
  · obtain ⟨synchronizer, hplace, hclient⟩ := clientFrom_of_run hasked hused h
    refine ⟨synchronizer, hplace, fun git other hvalid hload => ?_⟩
    rw [run_without_repository (Or.inl rfl), hvalid]
    have hsame : clientFrom surroundings.web settings (resolverOf other) =
        clientFrom surroundings.web settings
          (resolverOf (synchronizer.prepare surroundings.git start).session) :=
      clientFrom_congr hload
    exact produce_of_clientFrom (hsame.trans hclient) (directoryText_of_synchronizerOf hplace)

/-- Without the document, or with a repository that refuses everything. -/
theorem aborted_run_leaves_nothing_sample :
    (∃ ended fault, run Sample.surroundings Sample.settings true {} = (ended, .error fault) ∧
      ended.files = {}) ∧
    (∃ ended fault, run Sample.refusing Sample.gitSettings false {} = (ended, .error fault) ∧
      ended.actions = [.clone (.string "git.example") "ts" none] ∧ OpensOnly {} ended) ∧
    ∃ ended project,
      run Sample.refusing Sample.gitSettings false Sample.session = (ended, .ok project) ∧
      ((run Sample.surroundings Sample.gitSettings true Sample.session).2 = .ok project ∨
        ∃ reason, (run Sample.surroundings Sample.gitSettings true Sample.session).2 =
          .error (.saving reason)) := by
  refine ⟨?_, ?_, ?_⟩
  · refine ⟨_, .loading (.missing "catalog.json"), rfl, ?_⟩
    exact (aborted_run_leaves_nothing Sample.surroundings Sample.settings true {} _).1
      (Or.inl rfl) _ rfl (by rintro _ ⟨⟩)
  · have h : run Sample.refusing Sample.gitSettings false {} =
        (_, .error (.loading (.missing "catalog.json"))) := rfl
    refine ⟨_, _, h, rfl, ?_⟩
    exact (aborted_run_leaves_nothing Sample.refusing Sample.gitSettings false {} _).2.1
      Sample.isCaught_refusing _ h
  · obtain ⟨produced, hproduced⟩ : ∃ produced,
        produce Sample.refusing.web Sample.gitSettings
          (Sample.gitSynchronizer.prepare Sample.refusing.git Sample.session).session =
            (produced, .ok ⟨[Sample.sharedDeclaration, Sample.sharedFunctions]⟩) :=
      Sample.produce_shared _ Sample.around_refused
    obtain ⟨ended, h⟩ : ∃ ended,
        run Sample.refusing Sample.gitSettings false Sample.session = (ended, .ok _) :=
      run_of_opened Sample.isCaught_refusing rfl rfl rfl rfl hproduced
    obtain ⟨synchronizer, hplace, hsame⟩ :=
      (aborted_run_leaves_nothing Sample.refusing Sample.gitSettings false _ ended).2.2 rfl rfl _ h
    obtain rfl := Except.ok.inj hplace
    exact ⟨ended, _, h, hsame {} Sample.session rfl fun _ _ => rfl⟩

end Command

end CatalogClient
