/-
# What a run tells of the token

Two runs of the command differ in the token alone: in what is given to its option, or in the
settings file, or in both. Stage by stage they print the same lines, note the same records, write
the same files, ask for the same actions on the repository and end in the same way. The token gets
no further than into the password in the environment of the actions that talk to a remote.
-/

import CatalogClient.Command.Run
import CatalogClient.Proofs.Command.Aborting
import CatalogClient.Proofs.Command.Arguments
import CatalogClient.Proofs.Repository.Secrecy

namespace CatalogClient

namespace Command

variable {machine : Machine} {place : List String} {first second : ByteArray}

/-- Two faults that the command reports in the same words on a machine, or the same fault. -/
abbrev FaultsAgree (machine : Machine) : RunFault → RunFault → Prop :=
  SameWords fun fault => fault.report? machine

theorem faultsAgree_refl (fault : RunFault) : FaultsAgree machine fault fault :=
  .refl _ fault

theorem sameOutcome {α : Type} (outcome : Except RunFault α) :
    OutcomesAgree (FaultsAgree machine) Eq outcome outcome :=
  .refl faultsAgree_refl (fun _ => rfl) outcome

/-- Settings that differ in the token alone are settled, or there is the same fault. -/
theorem settle_agree (hcontents : SameButToken machine first second) {overrides others : Overrides}
    (h : overrides.Agree others) :
    Run.Agree machine place first second (FaultsAgree machine) Settings.Agree (settle overrides)
      (settle others) := by
  have hdirectory : others.directory = overrides.directory := by
    obtain ⟨token, -, rfl⟩ := h
    rfl
  unfold settle
  rw [hdirectory]
  apply Staged.Agree.bind Run.agree_files
  intro files files' hfiles
  have hloaded : OutcomesAgree (FaultsAgree machine) (Option.Rel Settings.Agree)
      ((Settings.load files settingsFileName overrides.directory).mapError .settings)
      ((Settings.load files' settingsFileName overrides.directory).mapError .settings) := by
    apply (Settings.load_agree hfiles hcontents settingsFileName overrides.directory).mapError
    rintro fault _ rfl
    exact faultsAgree_refl _
  apply Staged.Agree.bind (.ofExcept hloaded)
  intro found found' hfound
  cases hfound with
  | none => exact .pure ((Settings.Agree.refl _).overrideWith h)
  | some hsettings =>
      apply Staged.Agree.after (Run.agree_print _)
      exact .pure (hsettings.overrideWith h)

section Producing

variable (settings : Settings)

theorem absolutePath_eq {files others : FileSystem}
    (hfiles : FileSystem.DifferAt place first second files others) (directory : String) :
    absolutePath others directory = absolutePath files directory := by
  unfold absolutePath
  rw [hfiles.working]

theorem saveIn_agree (directory : String) (project : Project) :
    Run.Agree machine place first second (FaultsAgree machine) Eq (saveIn directory project)
      (saveIn directory project) := by
  intro start start' hstart
  rw [saveIn_eq, saveIn_eq]
  obtain ⟨hsaved, houtcome⟩ := Project.save_agree hstart.files project directory
  rw [← houtcome]
  exact ⟨(hstart.notes _).withFiles hsaved, sameOutcome _⟩

/-- The same files are written. -/
theorem save_agree (project : Project) :
    Run.Agree machine place first second (FaultsAgree machine) Eq (save settings project)
      (save settings project) := by
  have hrest : ∀ directory, Run.Agree machine place first second (FaultsAgree machine) Eq
      (do
        saveIn directory project
        let files ← Run.files
        Run.print "✅ Генерация завершена успешно!"
        Run.print ("📦 Клиент создан в: " ++ absolutePath files directory))
      (do
        saveIn directory project
        let files ← Run.files
        Run.print "✅ Генерация завершена успешно!"
        Run.print ("📦 Клиент создан в: " ++ absolutePath files directory)) := by
    intro directory
    apply Staged.Agree.after (saveIn_agree directory project)
    apply Staged.Agree.bind Run.agree_files
    intro files others hfiles
    rw [absolutePath_eq hfiles]
    exact .after (Run.agree_print _) (Run.agree_print _)
  unfold save
  apply Staged.Agree.after (Run.agree_print _)
  cases settings.directoryText with
  | ok directory => exact .bindSame (.pure rfl) hrest
  | error fault =>
      apply Staged.Agree.after (.change fun _ _ hstart => hstart.notes _)
      exact .bindSame (.throw (faultsAgree_refl _)) hrest

end Producing

section Publishing

variable {synchronizer other : Synchronizer} (h : synchronizer.Agree other) (git : GitBehaviour)
include h

end Publishing

end Command

namespace Sample

end Sample

namespace Command

end Command

end CatalogClient
