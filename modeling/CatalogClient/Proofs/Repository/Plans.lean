/-
# Plans of a synchronizer

Every part of a synchronization has a plan: the actions that it asks for if the repository refuses
none of them. The plan is carried out up to the first action that is refused, no error is reported
on the way, and the end is that of this action. Parts that follow each other have a plan that is put
together from theirs.
-/

import CatalogClient.Proofs.Repository.Actions

namespace CatalogClient

namespace GitBehaviour

/-- Whether a repository refuses an action. -/
def refuses (git : GitBehaviour) (action : GitAction) : Bool :=
  (action.operation?.bind git.failure).isSome

/-- The part of a plan that is carried out. -/
def carriedOut (git : GitBehaviour) : List GitAction → List GitAction
  | [] => []
  | action :: rest => if git.refuses action then [action] else action :: carriedOut git rest

/-- Whether there is a remote to pull from and to push to. -/
def hasOrigin (git : GitBehaviour) : Bool :=
  git.remotes.contains originRemote

/-- Whether there is a commit and nothing to add to it. -/
def isClean (git : GitBehaviour) : Bool :=
  git.hasHead && !git.isDirty

variable {git : GitBehaviour}

/-- Nothing is asked for after an action that is refused. -/
theorem eq_nil_of_carriedOut {plan before later : List GitAction} {action : GitAction}
    (h : git.carriedOut plan = before ++ action :: later) (hrefused : git.refuses action = true) :
    later = [] := by
  induction plan generalizing before with
  | nil => simp [carriedOut] at h
  | cons first rest ih =>
      unfold carriedOut at h
      split at h
      · cases before with
        | nil => exact (List.cons.inj h).2.symm
        | cons _ _ => simp at h
      · next hfirst =>
          cases before with
          | nil =>
              obtain rfl := (List.cons.inj h).1
              exact absurd hrefused hfirst
          | cons _ _ => exact ih (List.cons.inj h).2

theorem carriedOut_of_accepted {plan : List GitAction}
    (h : ∀ action ∈ plan, git.refuses action = false) (more : List GitAction) :
    git.carriedOut (plan ++ more) = plan ++ git.carriedOut more := by
  induction plan with
  | nil => rfl
  | cons action rest ih =>
      obtain ⟨hfirst, hrest⟩ := List.forall_mem_cons.mp h
      rw [List.cons_append, carriedOut, hfirst]
      simp only [Bool.false_eq_true, if_false, ih hrest, List.cons_append]

theorem carriedOut_eq_self {plan : List GitAction}
    (h : ∀ action ∈ plan, git.refuses action = false) : git.carriedOut plan = plan := by
  simpa [carriedOut] using carriedOut_of_accepted h []

/-- A plan ends with its first part if something in it is refused. -/
theorem carriedOut_of_refused {plan : List GitAction}
    (h : ∃ action ∈ plan, git.refuses action = true) (more : List GitAction) :
    git.carriedOut (plan ++ more) = git.carriedOut plan := by
  induction plan with
  | nil => obtain ⟨_, hmem, _⟩ := h; cases hmem
  | cons action rest ih =>
      rw [List.cons_append, carriedOut, carriedOut]
      split
      · rfl
      · next hfirst =>
          rw [ih]
          obtain ⟨refused, hmem, hrefused⟩ := h
          rcases List.mem_cons.mp hmem with rfl | hmem
          · exact absurd hrefused hfirst
          · exact ⟨refused, hmem, hrefused⟩

/-- Something that is asked for is refused exactly if something in the plan is. -/
theorem exists_refused_carriedOut {plan : List GitAction} :
    (∃ action ∈ git.carriedOut plan, git.refuses action = true) ↔
      ∃ action ∈ plan, git.refuses action = true := by
  induction plan with
  | nil => rfl
  | cons action rest ih =>
      unfold carriedOut
      by_cases hfirst : git.refuses action = true
      · simp [hfirst]
      · simp [hfirst, ih]

end GitBehaviour

namespace Synchronizer

open GitBehaviour

variable (synchronizer : Synchronizer) (git : GitBehaviour)

/-- The error that an action ends with, if it is refused. -/
def error? (action : GitAction) : Option GitError :=
  action.operation?.bind fun operation => (git.failure operation).map fun failure =>
    failure.toError operation synchronizer.directory

theorem isSome_error? (action : GitAction) :
    (synchronizer.error? git action).isSome = git.refuses action := by
  unfold error? refuses
  cases action.operation? with
  | none => rfl
  | some operation => cases hfailure : git.failure operation <;> simp [hfailure]

/-- A plan has an error exactly if something in it is refused. -/
theorem findSome?_error?_eq_none_iff (plan : List GitAction) :
    plan.findSome? (synchronizer.error? git) = none ↔
      ∀ action ∈ plan, git.refuses action = false := by
  rw [List.findSome?_eq_none_iff]
  refine forall₂_congr fun action _ => ?_
  rw [← synchronizer.isSome_error?, Option.isSome_eq_false_iff, Option.isNone_iff_eq_none]

/-- From a session on a plan was carried out. No error is reported on the way, and the end is the
error of the plan, or else a value. -/
structure CarriesOut {α : Type} (start : Session) (plan : List GitAction) (value : α)
    (ended : Session × Except GitError α) : Prop where
  actions : ended.1.actions = start.actions ++ git.carriedOut plan
  log : ∃ log, ended.1.log = start.log ++ log ∧ ∀ record ∈ log, record.severity ≠ .error
  outcome : ended.2 =
    match plan.findSome? (synchronizer.error? git) with
    | some error => .error error
    | none => .ok value

namespace CarriesOut

variable {synchronizer git} {α β : Type} {start : Session}

/-- What neither asks for anything nor notes an error has an empty plan. -/
theorem quiet {value : α} {ended : Session} (hactions : ended.actions = start.actions)
    (hlog : ∃ log, ended.log = start.log ++ log ∧ ∀ record ∈ log, record.severity ≠ .error) :
    synchronizer.CarriesOut git start [] value (ended, .ok value) :=
  ⟨hactions.trans (List.append_nil _).symm, hlog, rfl⟩

theorem pure (value : α) :
    synchronizer.CarriesOut git start [] value ((Pure.pure value : Run GitError α) start) :=
  .quiet rfl ⟨[], (List.append_nil _).symm, List.forall_mem_nil _⟩

theorem note {severity : Severity} (text : String) (h : severity ≠ .error) :
    synchronizer.CarriesOut git start [] () (Run.note severity text start) :=
  .quiet rfl ⟨[⟨severity, text⟩], rfl, List.forall_mem_singleton.mpr h⟩

theorem request {action : GitAction} {operation : GitOperation}
    (h : action.operation? = some operation) :
    synchronizer.CarriesOut git start [action] ()
      (synchronizer.request git action operation start) := by
  refine ⟨?_, ⟨[], (List.append_nil _).symm, List.forall_mem_nil _⟩, ?_⟩
  · show start.actions ++ [action] = _
    unfold carriedOut carriedOut
    split <;> rfl
  · simp only [Synchronizer.request, List.findSome?_cons, List.findSome?_nil, error?, h,
      Option.bind_some]
    cases git.failure operation <;> rfl

theorem setUp :
    synchronizer.CarriesOut git start [.setUp synchronizer.credentials] ()
      (synchronizer.setUp start) :=
  ⟨rfl, ⟨[], (List.append_nil _).symm, List.forall_mem_nil _⟩, rfl⟩

/-- One plan after the other. -/
theorem bind {first : Run GitError α} {next : α → Run GitError β} {plan more : List GitAction}
    {value : α} {result : β} (hfirst : synchronizer.CarriesOut git start plan value (first start))
    (hnext : ∀ middle, synchronizer.CarriesOut git middle more result (next value middle)) :
    synchronizer.CarriesOut git start (plan ++ more) result ((first >>= next) start) := by
  obtain ⟨hactions, ⟨log, hlog, hquiet⟩, houtcome⟩ := hfirst
  rcases hrun : first start with ⟨middle, outcome⟩
  rw [hrun] at hactions hlog houtcome
  cases herror : plan.findSome? (synchronizer.error? git) with
  | some error =>
      simp only [herror] at houtcome
      subst houtcome
      have hrefused : ∃ action ∈ plan, git.refuses action = true := by
        obtain ⟨action, hmem, hfound⟩ := List.exists_of_findSome?_eq_some herror
        exact ⟨action, hmem, by rw [← synchronizer.isSome_error?, hfound]; rfl⟩
      rw [Staged.bind_of_error hrun]
      refine ⟨?_, ⟨log, hlog, hquiet⟩, ?_⟩
      · rw [carriedOut_of_refused hrefused]
        exact hactions
      · rw [List.findSome?_append, herror]
        rfl
  | none =>
      simp only [herror] at houtcome
      subst houtcome
      have haccepted := (synchronizer.findSome?_error?_eq_none_iff git plan).mp herror
      obtain ⟨hmore, ⟨later, hlater, hsilent⟩, hresult⟩ := hnext middle
      rw [Staged.bind_of_ok hrun]
      refine ⟨?_, ⟨log ++ later, ?_, List.forall_mem_append.mpr ⟨hquiet, hsilent⟩⟩, ?_⟩
      · rw [hmore, hactions, carriedOut_of_accepted haccepted, carriedOut_eq_self haccepted,
          List.append_assoc]
      · rw [hlater, hlog, List.append_assoc]
      · rw [hresult, List.findSome?_append, herror]
        rfl

/-- What asks for nothing has no part in the plan. -/
theorem afterQuiet {first : Run GitError α} {next : α → Run GitError β} {plan : List GitAction}
    {value : α} {result : β} (hfirst : synchronizer.CarriesOut git start [] value (first start))
    (hnext : ∀ middle, synchronizer.CarriesOut git middle plan result (next value middle)) :
    synchronizer.CarriesOut git start plan result ((first >>= next) start) :=
  hfirst.bind hnext

theorem afterAction {first : Run GitError α} {next : α → Run GitError β} {action : GitAction}
    {plan : List GitAction} {value : α} {result : β}
    (hfirst : synchronizer.CarriesOut git start [action] value (first start))
    (hnext : ∀ middle, synchronizer.CarriesOut git middle plan result (next value middle)) :
    synchronizer.CarriesOut git start (action :: plan) result ((first >>= next) start) :=
  hfirst.bind hnext

end CarriesOut

/-- Whether the output directory is a repository. -/
def hasRepository (files : FileSystem) : Bool :=
  files.isDirectory synchronizer.repositoryPath

/-- Whether a repository that is opened is pulled as well. -/
def pulls : Bool :=
  isGiven synchronizer.remoteUrl && git.hasOrigin

/-- What is asked for to open or clone the repository. -/
def openingPlan (files : FileSystem) : List GitAction :=
  if synchronizer.hasRepository files then
    .openExisting synchronizer.directory ::
      if synchronizer.pulls git then [.setUp synchronizer.credentials, .pull] else []
  else
    match synchronizer.remoteUrl.filter Toml.isSet with
    | some url => [.clone url synchronizer.directory synchronizer.credentials]
    | none => []

/-- What is asked for to publish the changes. -/
def publishingPlan (message : Toml) : List GitAction :=
  .add ::
    if git.isClean then []
    else .commit message ::
      if git.hasOrigin then [.setUp synchronizer.credentials, .push] else []

/-- Whether there is neither a repository to open nor a remote to clone. -/
def isNowhere (files : FileSystem) : Bool :=
  !synchronizer.hasRepository files && !isGiven synchronizer.remoteUrl

/-- The fault where there is neither a repository nor a remote. -/
def nowhere : GitFault :=
  ⟨.openExisting, synchronizer.directory ++ " is not a repository and no remote is set"⟩

theorem openOrClone_eq (start : Session) :
    synchronizer.openOrClone git start =
      if synchronizer.hasRepository start.files then synchronizer.openExisting git start
      else
        match synchronizer.remoteUrl.filter Toml.isSet with
        | some url => synchronizer.clone git url start
        | none => (start, .error (.fault synchronizer.nowhere)) := by
  show (if synchronizer.hasRepository start.files = true then synchronizer.openExisting git
    else _ : Run GitError Unit) start = _
  split
  · rfl
  · cases synchronizer.remoteUrl.filter Toml.isSet <;> rfl

theorem isGiven_eq_isSome_filter (setting : Option Toml) :
    isGiven setting = (setting.filter Toml.isSet).isSome := by
  cases setting with
  | none => rfl
  | some value => cases h : value.isSet <;> simp [isGiven, Option.filter, h]

variable {synchronizer git} {start : Session}

theorem carriesOut_openExisting (hplace : synchronizer.hasRepository start.files = true) :
    synchronizer.CarriesOut git start (synchronizer.openingPlan git start.files) ()
      (synchronizer.openExisting git start) := by
  have hpulled : (isGiven synchronizer.remoteUrl && git.remotes.contains originRemote) =
      synchronizer.pulls git := rfl
  unfold openExisting openingPlan
  simp only [hplace, if_true, hpulled]
  cases synchronizer.pulls git with
  | true =>
      refine .afterQuiet (.note _ nofun) fun _ => ?_
      refine .afterAction (.request rfl) fun _ => ?_
      refine .afterAction .setUp fun _ => ?_
      exact .afterAction (.request rfl) fun _ => .note _ nofun
  | false =>
      refine .afterQuiet (.note _ nofun) fun _ => ?_
      exact .afterAction (.request rfl) fun _ => .pure ()

theorem carriesOut_clone (url : Toml) :
    synchronizer.CarriesOut git start
      [.clone url synchronizer.directory synchronizer.credentials] ()
      (synchronizer.clone git url start) := by
  unfold clone
  refine .afterQuiet (.note _ nofun) fun _ => ?_
  refine .afterAction (.request rfl) fun _ => ?_
  exact .quiet rfl ⟨[], (List.append_nil _).symm, List.forall_mem_nil _⟩

/-- The repository is opened or cloned where there is one or the other. -/
theorem carriesOut_openOrClone (h : synchronizer.isNowhere start.files = false) :
    synchronizer.CarriesOut git start (synchronizer.openingPlan git start.files) ()
      (synchronizer.openOrClone git start) := by
  rw [openOrClone_eq]
  by_cases hplace : synchronizer.hasRepository start.files = true
  · rw [if_pos hplace]
    exact carriesOut_openExisting hplace
  · rw [if_neg hplace, openingPlan, if_neg hplace]
    cases hurl : synchronizer.remoteUrl.filter Toml.isSet with
    | some url => exact carriesOut_clone url
    | none =>
        simp [isNowhere, hplace, isGiven_eq_isSome_filter, hurl] at h

theorem carriesOut_add :
    synchronizer.CarriesOut git start [.add] () (synchronizer.add git start) :=
  .afterAction (.request rfl) fun _ => .note _ nofun

theorem carriesOut_commit (message : Toml) :
    synchronizer.CarriesOut git start (if git.isClean then [] else [.commit message])
      (!git.isClean) (synchronizer.commit git message start) := by
  have hclean : (git.hasHead && !git.isDirty) = git.isClean := rfl
  unfold commit
  rw [hclean]
  cases git.isClean with
  | true => exact .afterQuiet (.note _ nofun) fun _ => .pure _
  | false =>
      refine .afterAction (.request rfl) fun _ => ?_
      exact .afterQuiet (.note _ nofun) fun _ => .pure _

theorem carriesOut_notePushed (reports : List String) :
    synchronizer.CarriesOut git start [] () (notePushed reports start) := by
  induction reports generalizing start with
  | nil => exact .pure ()
  | cons report rest ih => exact .afterQuiet (.note _ nofun) fun _ => ih

theorem carriesOut_push :
    synchronizer.CarriesOut git start
      (if git.hasOrigin then [.setUp synchronizer.credentials, .push] else []) ()
      (synchronizer.push git start) := by
  have horigin : git.remotes.contains originRemote = git.hasOrigin := rfl
  unfold push
  rw [horigin]
  cases git.hasOrigin with
  | true =>
      refine .afterAction .setUp fun _ => ?_
      exact .afterAction (.request rfl) fun _ => carriesOut_notePushed _
  | false => exact .note _ nofun

theorem carriesOut_publish (message : Toml) :
    synchronizer.CarriesOut git start (synchronizer.publishingPlan git message) ()
      (synchronizer.publish git message start) := by
  have hcommit : ∀ middle, synchronizer.CarriesOut git middle
      (if git.isClean then [] else [.commit message]) (!git.isClean)
      (synchronizer.commit git message middle) := fun _ => carriesOut_commit message
  unfold publish publishingPlan
  cases hclean : git.isClean with
  | true =>
      simp only [hclean, if_true, Bool.not_true] at hcommit ⊢
      refine .afterAction carriesOut_add fun middle => ?_
      exact .afterQuiet (hcommit middle) fun _ => .pure ()
  | false =>
      simp only [hclean, Bool.not_false, Bool.false_eq_true, if_false] at hcommit ⊢
      refine .afterAction carriesOut_add fun middle => ?_
      exact .afterAction (hcommit middle) fun _ => carriesOut_push

end Synchronizer

end CatalogClient
