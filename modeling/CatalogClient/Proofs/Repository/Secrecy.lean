/-
# What a repository is told of the token

The token goes into the credentials, and of the variables that carry these only the password holds
it. Two synchronizers that differ in the token alone ask for the same actions with the same
arguments, note the same records and fail in the same way; what differs is the password in the
environment of the actions that talk to a remote.
-/

import CatalogClient.Proofs.Repository.Calls
import CatalogClient.Proofs.Settings.Token
import Mathlib.Data.List.Forall2

namespace CatalogClient

/-- Two variables of an environment that are the same, or two passwords. -/
def VariablesAgree (entry other : String × Toml) : Prop :=
  other.1 = entry.1 ∧ (entry.1 ≠ "GIT_PASSWORD" → other.2 = entry.2)

/-- Two credentials whose variables are the same but for the password. -/
def Credentials.Agree (credentials others : Credentials) : Prop :=
  ∀ askpass, List.Forall₂ VariablesAgree (credentials.variables askpass)
    (others.variables askpass)

theorem Credentials.agree_of_username {credentials others : Credentials}
    (h : others.username = credentials.username) : credentials.Agree others := by
  intro askpass
  rw [Credentials.variables, Credentials.variables, h]
  refine .cons ⟨rfl, fun _ => rfl⟩ (.cons ⟨rfl, fun _ => rfl⟩ (.cons ⟨rfl, fun _ => rfl⟩ ?_))
  exact .cons ⟨rfl, fun hother => absurd rfl hother⟩ .nil

/-- Two actions that are the same but for the password in their environment. -/
inductive GitAction.Agree : GitAction → GitAction → Prop
  | same (action : GitAction) : Agree action action
  | clone (url : Toml) (directory : String) {credentials others : Credentials}
      (h : credentials.Agree others) :
      Agree (.clone url directory (some credentials)) (.clone url directory (some others))
  | setUp {credentials others : Credentials} (h : credentials.Agree others) :
      Agree (.setUp (some credentials)) (.setUp (some others))

/-- Two sessions on a machine that are the same but for the content of one file and the passwords in
the environment of actions. -/
structure Session.Agree (machine : Machine) (place : List String) (first second : ByteArray)
    (session other : Session) : Prop where
  files : FileSystem.DifferAt place first second session.files other.files
  printed : other.printed = session.printed
  log : other.log = session.log
  actions : List.Forall₂ GitAction.Agree session.actions other.actions
  own : session.machine = machine
  others : other.machine = machine

variable {machine : Machine} {place : List String} {first second : ByteArray} {ε α : Type}

namespace Session.Agree

variable {session other : Session}

theorem refl (session : Session) : Agree session.machine place first second session session where
  files := .refl session.files
  printed := rfl
  log := rfl
  actions := List.forall₂_same.mpr fun action _ => .same action
  own := rfl
  others := rfl

theorem print (h : Agree machine place first second session other) (line : String) :
    Agree machine place first second (session.print line) (other.print line) where
  files := h.files
  printed := congrArg (· ++ [line]) h.printed
  log := h.log
  actions := h.actions
  own := h.own
  others := h.others

theorem notes (h : Agree machine place first second session other) (log : Log) :
    Agree machine place first second (session.notes log) (other.notes log) where
  files := h.files
  printed := h.printed
  log := congrArg (· ++ log) h.log
  actions := h.actions
  own := h.own
  others := h.others

theorem note (h : Agree machine place first second session other) (severity : Severity)
    (text : String) :
    Agree machine place first second (session.note severity text) (other.note severity text) :=
  h.notes [⟨severity, text⟩]

theorem act (h : Agree machine place first second session other) {action another : GitAction}
    (haction : action.Agree another) :
    Agree machine place first second (session.act action) (other.act another) where
  files := h.files
  printed := h.printed
  log := h.log
  actions := List.rel_append h.actions (.cons haction .nil)
  own := h.own
  others := h.others

theorem withFiles (h : Agree machine place first second session other) {files others : FileSystem}
    (hfiles : FileSystem.DifferAt place first second files others) :
    Agree machine place first second { session with files } { other with files := others } where
  files := hfiles
  printed := h.printed
  log := h.log
  actions := h.actions
  own := h.own
  others := h.others

end Session.Agree

namespace Run

/-- Two parts of runs that lead from sessions that agree to such sessions, with outcomes that agree.
-/
abbrev Agree (machine : Machine) (place : List String) (first second : ByteArray) (E : ε → ε → Prop)
    (V : α → α → Prop) (run other : Run ε α) : Prop :=
  Staged.Agree (Session.Agree machine place first second) E V run other

variable {E : ε → ε → Prop} {V : α → α → Prop}

theorem agree_print (line : String) :
    Agree machine place first second E Eq (print line) (print line) :=
  .change fun _ _ h => h.print line

theorem agree_note (severity : Severity) (text : String) :
    Agree machine place first second E Eq (note severity text) (note severity text) :=
  .change fun _ _ h => h.note severity text

theorem agree_files :
    Agree machine place first second E (FileSystem.DifferAt place first second) files files :=
  fun _ _ h => ⟨h, .ok h.files⟩

end Run

namespace Synchronizer

/-- Synchronizers that differ in the token alone. -/
structure Agree (synchronizer other : Synchronizer) : Prop where
  directory : other.directory = synchronizer.directory
  remoteUrl : other.remoteUrl = synchronizer.remoteUrl
  username : other.username = synchronizer.username
  isOpen : other.isOpen = synchronizer.isOpen
  token : TokensAgree synchronizer.token other.token

variable {synchronizer other : Synchronizer}

/-- The credentials are the same, or they differ in the password. -/
theorem Agree.credentials (h : synchronizer.Agree other) :
    other.credentials = synchronizer.credentials ∨
      ∃ own others, synchronizer.credentials = some own ∧ other.credentials = some others ∧
        own.Agree others := by
  unfold Synchronizer.credentials
  rw [h.username]
  rcases h.token with htoken | ⟨hgiven, hgiven'⟩
  · rw [htoken]
    exact Or.inl rfl
  · rw [isGiven_eq_isSome_filter] at hgiven hgiven'
    obtain ⟨text, htext⟩ := Option.isSome_iff_exists.mp hgiven
    obtain ⟨text', htext'⟩ := Option.isSome_iff_exists.mp hgiven'
    rw [htext, htext']
    exact Or.inr ⟨_, _, rfl, rfl, Credentials.agree_of_username rfl⟩

theorem Agree.setUp (h : synchronizer.Agree other) :
    Run.Agree machine place first second Eq Eq synchronizer.setUp other.setUp := by
  apply Staged.Agree.change
  intro start start' hstart
  apply hstart.act
  rcases h.credentials with hsame | ⟨_, _, hown, hothers, hagree⟩
  · rw [hsame]
    exact .same _
  · rw [hown, hothers]
    exact .setUp hagree

/-- The same action is refused in the same way. -/
theorem Agree.request (h : synchronizer.Agree other) (git : GitBehaviour)
    {action another : GitAction} (haction : action.Agree another) (operation : GitOperation) :
    Run.Agree machine place first second Eq Eq (synchronizer.request git action operation)
      (other.request git another operation) := by
  intro start start' hstart
  unfold Synchronizer.request
  rw [h.directory]
  exact ⟨hstart.act haction, .refl (fun _ => rfl) (fun _ => rfl) _⟩

theorem Agree.openExisting (h : synchronizer.Agree other) (git : GitBehaviour) :
    Run.Agree machine place first second Eq Eq (synchronizer.openExisting git)
      (other.openExisting git) := by
  unfold Synchronizer.openExisting
  rw [h.directory, h.remoteUrl]
  apply Staged.Agree.after (Run.agree_note _ _)
  apply Staged.Agree.after (h.request git (.same _) _)
  split
  · apply Staged.Agree.after h.setUp
    apply Staged.Agree.after (h.request git (.same _) _)
    exact Run.agree_note _ _
  · exact .pure rfl

theorem Agree.clone (h : synchronizer.Agree other) (git : GitBehaviour) (url : Toml) :
    Run.Agree machine place first second Eq Eq (synchronizer.clone git url)
      (other.clone git url) := by
  have haction : GitAction.Agree (.clone url synchronizer.directory synchronizer.credentials)
      (.clone url synchronizer.directory other.credentials) := by
    rcases h.credentials with hsame | ⟨_, _, hown, hothers, hagree⟩
    · rw [hsame]
      exact .same _
    · rw [hown, hothers]
      exact .clone url _ hagree
  unfold Synchronizer.clone repositoryPath
  rw [h.directory]
  apply Staged.Agree.after (Run.agree_note _ _)
  apply Staged.Agree.after (h.request git haction _)
  apply Staged.Agree.change
  intro start start' hstart
  exact hstart.withFiles (hstart.files.makeDirectories_agree _).1

/-- The repository is opened, or cloned, or neither, in the same way. -/
theorem Agree.openOrClone (h : synchronizer.Agree other) (git : GitBehaviour) :
    Run.Agree machine place first second Eq Eq (synchronizer.openOrClone git)
      (other.openOrClone git) := by
  unfold Synchronizer.openOrClone repositoryPath
  rw [h.directory, h.remoteUrl]
  apply Staged.Agree.bind Run.agree_files
  intro files others hfiles
  rw [hfiles.isDirectory_eq]
  split
  · exact h.openExisting git
  · split
    · exact h.clone git _
    · exact .throw rfl

theorem Agree.publish (h : synchronizer.Agree other) (git : GitBehaviour) (message : Toml) :
    Run.Agree machine place first second Eq Eq (synchronizer.publish git message)
      (other.publish git message) := by
  have hadd : Run.Agree machine place first second Eq Eq (synchronizer.add git)
      (other.add git) := by
    apply Staged.Agree.after (h.request git (.same _) _)
    exact Run.agree_note _ _
  have hcommit : Run.Agree machine place first second Eq Eq (synchronizer.commit git message)
      (other.commit git message) := by
    unfold commit
    split
    · exact .after (Run.agree_note _ _) (.pure rfl)
    · apply Staged.Agree.after (h.request git (.same _) _)
      exact .after (Run.agree_note _ _) (.pure rfl)
  have hnoted : ∀ reports, Run.Agree machine place first second Eq Eq (notePushed reports)
      (notePushed reports) := by
    intro reports
    induction reports with
    | nil => exact .pure rfl
    | cons report rest ih => exact .after (Run.agree_note _ _) ih
  have hpush : Run.Agree machine place first second Eq Eq (synchronizer.push git)
      (other.push git) := by
    unfold push
    split
    · apply Staged.Agree.after h.setUp
      exact .after (h.request git (.same _) _) (hnoted _)
    · exact Run.agree_note _ _
  apply Staged.Agree.after hadd
  apply hcommit.bindSame
  intro committed
  split
  · exact hpush
  · exact .pure rfl

/-- Two outcomes of a synchronization that differ in what synchronizers and sessions may. -/
structure Outcome.Agree (machine : Machine) (place : List String) (first second : ByteArray)
    (outcome other : Outcome) : Prop where
  synchronizer : outcome.synchronizer.Agree other.synchronizer
  session : outcome.session.Agree machine place first second other.session
  answer : other.answer = outcome.answer

/-- Both count as opened once they are. -/
theorem Agree.opened (h : synchronizer.Agree other) :
    Agree { synchronizer with isOpen := true } { other with isOpen := true } where
  directory := h.directory
  remoteUrl := h.remoteUrl
  username := h.username
  isOpen := rfl
  token := h.token

theorem Agree.settle (h : synchronizer.Agree other)
    {ended ended' : Session × Except GitError Unit}
    (hended : ended.1.Agree machine place first second ended'.1 ∧
      OutcomesAgree Eq Eq ended.2 ended'.2) :
    Outcome.Agree machine place first second (synchronizer.settle ended) (other.settle ended') := by
  obtain ⟨session, outcome⟩ := ended
  obtain ⟨session', outcome'⟩ := ended'
  obtain ⟨hsession, houtcome⟩ := hended
  cases houtcome with
  | ok _ => exact ⟨h, hsession, rfl⟩
  | @error error _ hsame =>
      subst hsame
      cases error with
      | fault fault => exact ⟨h, hsession.note _ _, rfl⟩
      | raised failure => exact ⟨h, hsession, rfl⟩

theorem Agree.prepare (h : synchronizer.Agree other) (git : GitBehaviour) {start start' : Session}
    (hstart : start.Agree machine place first second start') :
    Outcome.Agree machine place first second (synchronizer.prepare git start)
      (other.prepare git start') := by
  unfold Synchronizer.prepare
  obtain ⟨hsession, houtcome⟩ := h.openOrClone git start start' hstart
  rcases hopen : synchronizer.openOrClone git start with ⟨session, outcome⟩
  rcases hopen' : other.openOrClone git start' with ⟨session', outcome'⟩
  rw [hopen, hopen'] at hsession houtcome
  cases houtcome with
  | ok _ => exact h.opened.settle ⟨hsession, .ok rfl⟩
  | error hfault => exact h.settle ⟨hsession, .error hfault⟩

theorem Agree.sync (h : synchronizer.Agree other) (git : GitBehaviour) (message : Toml)
    {start start' : Session} (hstart : start.Agree machine place first second start') :
    Outcome.Agree machine place first second (synchronizer.sync git message start)
      (other.sync git message start') := by
  unfold Synchronizer.sync
  rw [h.isOpen]
  split
  · exact h.settle (h.publish git message start start' hstart)
  · obtain ⟨hsession, houtcome⟩ := h.openOrClone git start start' hstart
    rcases hopen : synchronizer.openOrClone git start with ⟨session, outcome⟩
    rcases hopen' : other.openOrClone git start' with ⟨session', outcome'⟩
    rw [hopen, hopen'] at hsession houtcome
    cases houtcome with
    | ok _ => exact h.opened.settle (h.publish git message session session' hsession)
    | error hfault => exact h.settle ⟨hsession, .error hfault⟩

end Synchronizer

end CatalogClient
