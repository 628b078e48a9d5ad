/-
# Failures of a repository are contained

Every way in which an action is documented to fail is caught. So over any calls of a synchronizer,
whatever the repository refuses in a documented way, each call has an answer. It fails exactly where
an action that it asks for is refused, or where there is nothing to be opened; then it reports this
one error and asks for nothing more. Only what is not caught goes through. What a call asks for
comes in a fixed order, and the repository is opened only as long as no earlier call has opened it.
-/

import CatalogClient.Proofs.Repository.Order

namespace CatalogClient

/-- The documented failures of an action: a directory is no repository or not there when it is
opened, a value is not accepted when it is committed, and the program of any other action but the
opening ends with an exit code. -/
inductive GitOperation.Documents : GitOperation → GitFailure → Prop
  | noRepository : Documents .openExisting .noRepository
  | refused (reason : String) : Documents .commit (.refused reason)
  | exitCode {operation : GitOperation} (code : Int) (outside : operation ≠ .openExisting) :
      Documents operation (.exitCode code)

/-- These are the failures that are caught. -/
theorem GitOperation.catches_iff_documents {operation : GitOperation} {failure : GitFailure} :
    operation.catches failure = true ↔ operation.Documents failure := by
  constructor
  · intro h
    cases operation <;> cases failure <;>
      first | exact .noRepository | exact .refused _ | exact .exitCode _ (by decide) | cases h
  · intro h
    cases h with
    | noRepository => rfl
    | refused reason => rfl
    | exitCode code outside => cases operation <;> first | rfl | exact absurd rfl outside

namespace GitBehaviour

/-- Whether a repository refuses actions in documented ways only. -/
def Documented (git : GitBehaviour) : Prop :=
  ∀ operation failure, git.failure operation = some failure → operation.Documents failure

/-- Whether everything for which a repository refuses actions is caught. -/
def IsCaught (git : GitBehaviour) : Prop :=
  ∀ operation failure, git.failure operation = some failure → operation.catches failure = true

theorem Documented.isCaught {git : GitBehaviour} (h : git.Documented) : git.IsCaught :=
  fun _ _ hfailure => GitOperation.catches_iff_documents.mpr (h _ _ hfailure)

end GitBehaviour

namespace Synchronizer

open GitBehaviour

/-- The synchronizer after some calls. -/
def after (synchronizer : Synchronizer) : List Turn → Synchronizer
  | [] => synchronizer
  | turn :: rest => after (turn.outcome synchronizer).synchronizer rest

namespace Turn

variable (turn : Turn) (synchronizer : Synchronizer)

/-- What a call reports. -/
def reported : Log :=
  (turn.outcome synchronizer).session.log.drop turn.start.log.length

/-- A call has opened the repository if it asked for that and nothing of it was refused. -/
def Opened : Prop :=
  (∃ operation ∈ turn.operations synchronizer, operation.publishes = false) ∧
    ∀ operation ∈ turn.operations synchronizer, operation.publishes = false →
      turn.git.failure operation = none

variable {turn synchronizer} {git : GitBehaviour}

theorem opened_iff : turn.Opened synchronizer ↔ turn.hasOpened synchronizer = true := by
  have hopens := @openingOperations_ne_nil_iff turn synchronizer
  simp only [hasOpened, Bool.and_eq_true, Bool.not_eq_true', all_opening_iff, ← hopens]
  constructor
  · rintro ⟨⟨operation, hmem, hopening⟩, haccepted⟩
    by_cases hrefused : ∃ operation ∈ turn.openingOperations synchronizer,
        (turn.git.failure operation).isSome = true
    · obtain ⟨refused, hrefused, hfailure⟩ := hrefused
      rw [operations_of_refused ⟨refused, hrefused, hfailure⟩] at haccepted
      rw [haccepted refused hrefused (publishes_of_mem_openingOperations hrefused)] at hfailure
      cases hfailure
    · have haccepted' : ∀ operation ∈ turn.openingOperations synchronizer,
          turn.git.failure operation = none := by
        simpa using hrefused
      rw [operations_of_accepted haccepted'] at hmem
      rcases List.mem_append.mp hmem with hmem | hmem
      · exact ⟨List.ne_nil_of_mem hmem, haccepted'⟩
      · cases (publishes_of_mem_publishingOperations hmem).symm.trans hopening
  · rintro ⟨hne, haccepted⟩
    obtain ⟨operation, hmem⟩ := List.exists_mem_of_ne_nil _ hne
    rw [Opened, operations_of_accepted haccepted]
    refine ⟨⟨operation, List.mem_append_left _ hmem, publishes_of_mem_openingOperations hmem⟩, ?_⟩
    intro operation hmem hopening
    rcases List.mem_append.mp hmem with hmem | hmem
    · exact haccepted operation hmem
    · cases (publishes_of_mem_publishingOperations hmem).symm.trans hopening

/-- An action that is asked for and refused ends the plan with its error. -/
theorem error?_of_asked {plan : List GitAction} {action : GitAction} {operation : GitOperation}
    {failure : GitFailure} (hmem : action ∈ git.carriedOut plan)
    (hoperation : action.operation? = some operation)
    (hfailure : git.failure operation = some failure) :
    plan.findSome? (synchronizer.error? git) =
      some (failure.toError operation synchronizer.directory) := by
  have hrefused : git.refuses action = true := by
    rw [refuses_eq hoperation, hfailure]
    rfl
  have herror : synchronizer.error? git action =
      some (failure.toError operation synchronizer.directory) := by
    rw [Synchronizer.error?, hoperation, Option.bind_some, hfailure]
    rfl
  induction plan with
  | nil => cases hmem
  | cons first rest ih =>
      rw [carriedOut] at hmem
      by_cases hfirst : git.refuses first = true
      · rw [if_pos hfirst] at hmem
        obtain rfl := List.mem_singleton.mp hmem
        rw [List.findSome?_cons, herror]
      · rw [if_neg hfirst] at hmem
        rcases List.mem_cons.mp hmem with rfl | hrest
        · exact absurd hrefused hfirst
        · rw [← synchronizer.isSome_error?, Bool.not_eq_true, Option.isSome_eq_false_iff,
            Option.isNone_iff_eq_none] at hfirst
          rw [List.findSome?_cons, hfirst]
          exact ih hrest

/-- The error of a plan is that of the action that was asked for last. -/
theorem asked_of_error {error : GitError} {plan : List GitAction}
    (h : plan.findSome? (synchronizer.error? git) = some error) :
    ∃ before action operation failure, git.carriedOut plan = before ++ [action] ∧
      action.operation? = some operation ∧ git.failure operation = some failure ∧
      error = failure.toError operation synchronizer.directory := by
  obtain ⟨before, action, later, rfl, herror, hbefore⟩ := List.findSome?_eq_some_iff.mp h
  have haccepted : ∀ action ∈ before, git.refuses action = false := by
    intro action hmem
    rw [← synchronizer.isSome_error?, hbefore action hmem]
    rfl
  have hrefused : git.refuses action = true := by
    rw [← synchronizer.isSome_error?, herror]
    rfl
  obtain ⟨operation, hoperation, hmap⟩ := Option.bind_eq_some_iff.mp herror
  obtain ⟨failure, hfailure, rfl⟩ := Option.map_eq_some_iff.mp hmap
  refine ⟨before, action, operation, failure, ?_, hoperation, hfailure, rfl⟩
  rw [carriedOut_of_accepted haccepted, carriedOut, if_pos hrefused]

/-- A call ends with the error of an action that it asked for, or because there is nothing to be
opened. -/
theorem turnError_eq_some_iff {error : GitError} :
    turn.error? synchronizer = some error ↔
      (∃ operation ∈ turn.operations synchronizer, ∃ failure,
        turn.git.failure operation = some failure ∧
          error = failure.toError operation synchronizer.directory) ∨
        turn.isStuck synchronizer = true ∧ error = .fault synchronizer.nowhere := by
  by_cases hstuck : turn.isStuck synchronizer = true
  · have hnone : turn.operations synchronizer = [] := by
      rw [operations, asked_eq, plan_of_isStuck hstuck]
      rfl
    simp [Turn.error?, hstuck, hnone, eq_comm]
  · have hplan : turn.error? synchronizer =
        (turn.plan synchronizer).findSome? (synchronizer.error? turn.git) := if_neg hstuck
    simp only [hstuck, Bool.false_eq_true, false_and, or_false]
    rw [hplan]
    constructor
    · intro herror
      obtain ⟨before, action, operation, failure, hasked, hoperation, hfailure, rfl⟩ :=
        asked_of_error herror
      refine ⟨operation, List.mem_filterMap.mpr ⟨action, ?_, hoperation⟩, failure, hfailure, rfl⟩
      rw [asked_eq, hasked]
      exact List.mem_append_right _ List.mem_cons_self
    · rintro ⟨operation, hmem, failure, hfailure, rfl⟩
      obtain ⟨action, hasked, hoperation⟩ := List.mem_filterMap.mp hmem
      rw [asked_eq] at hasked
      exact error?_of_asked hasked hoperation hfailure

theorem toError_eq_raised_iff {operation : GitOperation} {directory : String}
    {failure raised : GitFailure} :
    .raised raised = failure.toError operation directory ↔
      failure = raised ∧ operation.catches failure = false := by
  unfold GitFailure.toError
  cases operation.catches failure <;> simp [eq_comm]

theorem exists_fault_iff {operation : GitOperation} {directory : String} {failure : GitFailure} :
    (∃ fault, .fault fault = failure.toError operation directory) ↔
      operation.catches failure = true := by
  unfold GitFailure.toError
  cases operation.catches failure <;> simp

/-- A call has no answer exactly if an action that it asks for is refused in a way that is not
caught. -/
theorem answer_eq_error_iff {failure : GitFailure} :
    (turn.outcome synchronizer).answer = .error failure ↔
      ∃ operation ∈ turn.operations synchronizer, turn.git.failure operation = some failure ∧
        operation.catches failure = false := by
  have hanswer : (turn.outcome synchronizer).answer = .error failure ↔
      turn.error? synchronizer = some (.raised failure) := by
    rw [(turn.ends synchronizer).answer]
    cases turn.error? synchronizer with
    | none => simp
    | some error => cases error <;> simp [GitError.answer]
  rw [hanswer, turnError_eq_some_iff]
  simp only [toError_eq_raised_iff, reduceCtorEq, and_false, or_false]
  refine exists_congr fun operation => and_congr_right fun _ => ?_
  constructor
  · rintro ⟨_, hfailure, rfl, hcaught⟩
    exact ⟨hfailure, hcaught⟩
  · exact fun h => ⟨failure, h.1, rfl, h.2⟩

theorem answer_eq_false_iff_exists :
    (turn.outcome synchronizer).answer = .ok false ↔
      ∃ fault, turn.error? synchronizer = some (.fault fault) := by
  rw [(turn.ends synchronizer).answer]
  cases turn.error? synchronizer with
  | none => simp
  | some error => cases error <;> simp [GitError.answer]

/-- A call fails if an action that it asks for is refused in a way that is caught, or if there is
nothing to be opened. -/
theorem answer_eq_false_iff :
    (turn.outcome synchronizer).answer = .ok false ↔
      (∃ operation ∈ turn.operations synchronizer, ∃ failure,
        turn.git.failure operation = some failure ∧ operation.catches failure = true) ∨
        turn.isStuck synchronizer = true := by
  rw [answer_eq_false_iff_exists]
  simp only [turnError_eq_some_iff, ← @exists_fault_iff _ synchronizer.directory]
  constructor
  · rintro ⟨fault, ⟨operation, hmem, failure, hfailure, herror⟩ | ⟨hstuck, -⟩⟩
    · exact .inl ⟨operation, hmem, failure, hfailure, fault, herror⟩
    · exact .inr hstuck
  · rintro (⟨operation, hmem, failure, hfailure, fault, herror⟩ | hstuck)
    · exact ⟨fault, .inl ⟨operation, hmem, failure, hfailure, herror⟩⟩
    · exact ⟨_, .inr ⟨hstuck, rfl⟩⟩

/-- The fault of a call names the action that was asked for last, or there was nothing to be
opened. -/
theorem asked_of_turnFault {fault : GitFault}
    (h : turn.error? synchronizer = some (.fault fault)) :
    (∃ before action, turn.asked synchronizer = before ++ [action] ∧
        turn.git.refuses action = true ∧ action.operation? = some fault.operation) ∨
      turn.asked synchronizer = [] ∧ fault = synchronizer.nowhere := by
  rw [asked_eq]
  unfold Turn.error? at h
  split at h
  · next hstuck =>
      rw [plan_of_isStuck hstuck]
      exact .inr ⟨rfl, (GitError.fault.inj (Option.some.inj h)).symm⟩
  · obtain ⟨before, action, operation, failure, hasked, hoperation, hfailure, herror⟩ :=
      asked_of_error h
    refine .inl ⟨before, action, hasked, ?_, ?_⟩
    · rw [refuses_eq hoperation, hfailure]
      rfl
    · rw [GitFailure.toError] at herror
      split at herror
      · obtain rfl := GitError.fault.inj herror
        exact hoperation
      · cases herror

/-- What is known of a call, given whether the repository was opened before. -/
structure Contained (turn : Turn) (synchronizer : Synchronizer) (opened : Prop) : Prop where
  actions : (turn.outcome synchronizer).session.actions =
    turn.start.actions ++ turn.asked synchronizer
  log : (turn.outcome synchronizer).session.log = turn.start.log ++ turn.reported synchronizer
  /-- A call raises what an action is refused for if that is not caught, and nothing else. -/
  raises_iff : ∀ failure, (turn.outcome synchronizer).answer = .error failure ↔
    ∃ operation ∈ turn.operations synchronizer, turn.git.failure operation = some failure ∧
      operation.catches failure = false
  /-- A call fails if an action is refused in a way that is caught, or if there is nothing to be
  opened. -/
  fails_iff : (turn.outcome synchronizer).answer = .ok false ↔
    (∃ operation ∈ turn.operations synchronizer, ∃ failure,
      turn.git.failure operation = some failure ∧ operation.catches failure = true) ∨
      (turn.call = .prepare ∨ ¬opened) ∧ synchronizer.isNowhere turn.start.files = true
  /-- If actions are refused in documented ways only, a call raises nothing, and it fails exactly if
  an action is refused or there is nothing to be opened. -/
  contains : turn.git.Documented →
    (∃ succeeded, (turn.outcome synchronizer).answer = .ok succeeded) ∧
      ((turn.outcome synchronizer).answer = .ok false ↔
        (∃ action ∈ turn.asked synchronizer, turn.git.refuses action = true) ∨
          (turn.call = .prepare ∨ ¬opened) ∧ synchronizer.isNowhere turn.start.files = true)
  /-- A call that does not fail reports no error. -/
  silent : (turn.outcome synchronizer).answer ≠ .ok false →
    ∀ record ∈ turn.reported synchronizer, record.severity ≠ .error
  /-- A call that fails reports one error, which names the action that was refused. -/
  reports : (turn.outcome synchronizer).answer = .ok false →
    ∃ fault : GitFault,
      ((turn.reported synchronizer).filter fun record => decide (record.severity = .error)) =
          [⟨.error, fault.message⟩] ∧
        ((∃ before action, turn.asked synchronizer = before ++ [action] ∧
            turn.git.refuses action = true ∧ action.operation? = some fault.operation) ∨
          turn.asked synchronizer = [] ∧ fault = synchronizer.nowhere)
  /-- Nothing is asked for after an action that is refused. -/
  stops : ∀ before action later, turn.asked synchronizer = before ++ action :: later →
    turn.git.refuses action = true → later = []
  /-- The repository is opened and pulled, or cloned, unless it was opened before a call that
  publishes. Then the changes are added, committed and pushed. -/
  order : ∃ opening publishing, turn.operations synchronizer = opening ++ publishing ∧
    opening ∈ [[], [.openExisting], [.openExisting, .pull], [.clone]] ∧
    publishing <+: [.add, .commit, .push] ∧
    (turn.call = .prepare → publishing = []) ∧
    (turn.call ≠ .prepare → opened → opening = []) ∧
    (opening = [.openExisting] →
      turn.git.failure .openExisting ≠ none ∨ synchronizer.pulls turn.git = false) ∧
    (publishing ≠ [] → (∀ operation ∈ opening, turn.git.failure operation = none) ∧
      (opening = [] → opened))
  /-- Nothing is committed unless the changes were added. -/
  commits : .commit ∈ turn.operations synchronizer →
    .add ∈ turn.operations synchronizer ∧ turn.git.failure .add = none
  /-- Nothing is pushed unless a commit was made in the same call. -/
  pushes : .push ∈ turn.operations synchronizer →
    .commit ∈ turn.operations synchronizer ∧ turn.git.failure .commit = none

/-- Where everything is caught that a repository refuses, a call raises nothing. -/
theorem returns_of_isCaught (h : turn.git.IsCaught) :
    (∃ succeeded, (turn.outcome synchronizer).answer = .ok succeeded) ∧
      ((turn.outcome synchronizer).answer = .ok false ↔
        (∃ action ∈ turn.asked synchronizer, turn.git.refuses action = true) ∨
          turn.isStuck synchronizer = true) := by
  constructor
  · cases hanswer : (turn.outcome synchronizer).answer with
    | ok succeeded => exact ⟨succeeded, rfl⟩
    | error failure =>
        obtain ⟨operation, -, hfailure, hescapes⟩ := answer_eq_error_iff.mp hanswer
        cases (h _ _ hfailure).symm.trans hescapes
  · rw [answer_eq_false_iff, exists_refused_iff]
    refine or_congr_left (exists_congr fun operation => and_congr_right fun _ => ?_)
    rw [Option.isSome_iff_exists]
    exact exists_congr fun failure => and_iff_left_of_imp (h operation failure)

/-- A call reports no error but the fault that it ends with. -/
theorem exists_reported_eq (turn : Turn) (synchronizer : Synchronizer) :
    ∃ log : Log, (∀ record ∈ log, record.severity ≠ .error) ∧
      turn.reported synchronizer =
        log ++ ((turn.error? synchronizer).bind GitError.fault?).toList.map
          fun fault => ⟨.error, fault.message⟩ := by
  obtain ⟨log, hquiet, hlog⟩ := (turn.ends synchronizer).log
  exact ⟨log, hquiet, by rw [reported, hlog, List.drop_left]⟩

/-- A call that does not fail reports no error. -/
theorem silent_of_answer (h : (turn.outcome synchronizer).answer ≠ .ok false) :
    ∀ record ∈ turn.reported synchronizer, record.severity ≠ .error := by
  obtain ⟨log, hquiet, hreported⟩ := turn.exists_reported_eq synchronizer
  rw [hreported]
  cases herror : turn.error? synchronizer with
  | none => simpa using hquiet
  | some error =>
      cases error with
      | fault fault => exact absurd (answer_eq_false_iff_exists.mpr ⟨fault, herror⟩) h
      | raised failure => simpa [GitError.fault?] using hquiet

/-- The one error that is reported by a call with a fault. -/
theorem filter_reported_of_fault {fault : GitFault}
    (h : turn.error? synchronizer = some (.fault fault)) :
    ((turn.reported synchronizer).filter fun record => decide (record.severity = .error)) =
      [⟨.error, fault.message⟩] := by
  obtain ⟨log, hquiet, hreported⟩ := turn.exists_reported_eq synchronizer
  have hnone : log.filter (fun record => decide (record.severity = .error)) = [] := by
    simpa using hquiet
  rw [hreported, h, List.filter_append, hnone]
  rfl

/-- Nothing is opened in a call that publishes with an open repository. -/
theorem openingOperations_of_isOpen (hcall : turn.call ≠ .prepare)
    (hopen : synchronizer.isOpen = true) : turn.openingOperations synchronizer = [] := by
  rw [openingOperations_eq, opens, isStuck, opens]
  cases hkind : turn.call with
  | prepare => exact absurd hkind hcall
  | sync message => simp [hopen]

theorem contained (turn : Turn) (synchronizer : Synchronizer) :
    turn.Contained synchronizer (synchronizer.isOpen = true) := by
  have hasked := turn.asked_eq synchronizer
  have hactions := (turn.ends synchronizer).actions
  obtain ⟨log, -, hlog⟩ := (turn.ends synchronizer).log
  have hstuck : turn.isStuck synchronizer = true ↔
      (turn.call = .prepare ∨ ¬synchronizer.isOpen = true) ∧
        synchronizer.isNowhere turn.start.files = true := by
    rw [isStuck, Bool.and_eq_true, opens_iff]
  refine ⟨?_, ?_, fun _ => answer_eq_error_iff, ?_, fun h => ?_, silent_of_answer, ?_, ?_, ?_, ?_,
    ?_⟩
  · rw [hactions, hasked]
  · rw [reported, hlog, List.drop_left]
  · rw [← hstuck]
    exact answer_eq_false_iff
  · rw [← hstuck]
    exact returns_of_isCaught h.isCaught
  · intro hfailed
    obtain ⟨fault, hfault⟩ := answer_eq_false_iff_exists.mp hfailed
    exact ⟨fault, filter_reported_of_fault hfault, asked_of_turnFault hfault⟩
  · intro before action later hsplit
    exact eq_nil_of_carriedOut (hasked.symm.trans hsplit)
  · obtain ⟨publishing, hsplit, hprefix, hprepare, hpublished⟩ :=
      turn.operations_eq_append synchronizer
    obtain ⟨hmem, hcomplete⟩ := turn.openingOperations_mem synchronizer
    exact ⟨_, publishing, hsplit, hmem, hprefix, hprepare, openingOperations_of_isOpen, hcomplete,
      hpublished⟩
  · intro h
    obtain ⟨hmem, hsplit⟩ := mem_publishingOperations h rfl
    obtain ⟨hadd, hdone⟩ := added_of_committed hmem
    exact ⟨hsplit ▸ List.mem_append_right _ hadd, hdone⟩
  · intro h
    obtain ⟨hmem, hsplit⟩ := mem_publishingOperations h rfl
    obtain ⟨hcommit, hdone⟩ := committed_of_pushed hmem
    exact ⟨hsplit ▸ List.mem_append_right _ hcommit, hdone⟩

end Turn

/-- Whether one of some calls has opened the repository. -/
def OpenedIn (synchronizer : Synchronizer) (earlier : List Turn) : Prop :=
  ∃ before turn later, earlier = before ++ turn :: later ∧
    turn.Opened (synchronizer.after before)

theorem openedIn_nil (synchronizer : Synchronizer) : ¬synchronizer.OpenedIn [] := by
  rintro ⟨before, turn, later, hsplit, -⟩
  simp at hsplit

theorem openedIn_cons (synchronizer : Synchronizer) (turn : Turn) (rest : List Turn) :
    synchronizer.OpenedIn (turn :: rest) ↔
      turn.Opened synchronizer ∨ (turn.outcome synchronizer).synchronizer.OpenedIn rest := by
  constructor
  · rintro ⟨before, opening, later, hsplit, hopened⟩
    cases before with
    | nil =>
        obtain ⟨rfl, rfl⟩ := List.cons.inj hsplit
        exact .inl hopened
    | cons first before =>
        obtain ⟨rfl, rfl⟩ := List.cons.inj hsplit
        exact .inr ⟨before, opening, later, rfl, hopened⟩
  · rintro (hopened | ⟨before, opening, later, rfl, hopened⟩)
    · exact ⟨[], turn, rest, rfl, hopened⟩
    · exact ⟨turn :: before, opening, later, rfl, hopened⟩

/-- A repository is open after some calls if it was open before, or if one of them has opened it. -/
theorem isOpen_after_iff (synchronizer : Synchronizer) (earlier : List Turn) :
    (synchronizer.after earlier).isOpen = true ↔
      synchronizer.isOpen = true ∨ synchronizer.OpenedIn earlier := by
  induction earlier generalizing synchronizer with
  | nil => simp [after, openedIn_nil]
  | cons turn rest ih =>
      have hstep : (turn.outcome synchronizer).synchronizer.isOpen = true ↔
          synchronizer.isOpen = true ∨ turn.Opened synchronizer := by
        rw [(turn.ends synchronizer).synchronizer, Turn.opened_iff, ← Bool.or_eq_true]
      rw [after, ih, hstep, openedIn_cons, or_assoc]

/-- Whatever is refused in any calls of a new synchronizer, the failures of every call are
contained: those that are documented give an answer, and only what is not caught is raised. The
repository is opened only where no earlier call has opened it. -/
theorem calls_contain_failures (directory : String) (remoteUrl username token : Option Toml)
    (earlier : List Turn) (turn : Turn) :
    turn.Contained ((⟨directory, remoteUrl, username, token, false⟩ : Synchronizer).after earlier)
      ((⟨directory, remoteUrl, username, token, false⟩ : Synchronizer).OpenedIn earlier) := by
  have hopened := isOpen_after_iff ⟨directory, remoteUrl, username, token, false⟩ earlier
  simp only [Bool.false_eq_true, false_or] at hopened
  rw [← hopened]
  exact turn.contained _

namespace Sample

/-- A synchronizer whose output directory is a repository. -/
def synchronizer : Synchronizer where
  directory := "ts"

/-- A session with this repository. -/
def repository : Session where
  files := { nodes := [(["ts"], .directory), (["ts", ".git"], .directory)] }

/-- A synchronization that makes a commit but cannot push it. -/
def refused : Turn where
  call := .sync (.string "first")
  git := { failure := fun operation => if operation = .push then some (.exitCode 128) else none }
  start := repository

/-- A preparation in which the opening of the repository ends with an exit code. -/
def unopened : Turn where
  call := .prepare
  git := { failure := fun operation =>
    if operation = .openExisting then some (.exitCode 128) else none }
  start := repository

theorem documented_refused : refused.git.Documented := by
  intro operation failure hfailure
  cases operation <;> cases hfailure
  exact .exitCode 128 nofun

end Sample

/-- A push that is refused makes a synchronization fail, and then a preparation raises what it does
not catch. -/
theorem calls_contain_failures_sample :
    Sample.refused.git.Documented ∧
      (Sample.refused.outcome Sample.synchronizer).answer = .ok false ∧
      (Sample.unopened.outcome (Sample.synchronizer.after [Sample.refused])).answer =
        .error (.exitCode 128) := by
  have hrefused := calls_contain_failures "ts" none none none [] Sample.refused
  have hunopened := calls_contain_failures "ts" none none none [Sample.refused] Sample.unopened
  refine ⟨Sample.documented_refused, ?_, ?_⟩
  · exact (hrefused.contains Sample.documented_refused).2.mpr
      (.inl ⟨.push, by decide +kernel, rfl⟩)
  · exact (hunopened.raises_iff _).mpr ⟨.openExisting, by decide +kernel, rfl, rfl⟩

end Synchronizer

end CatalogClient
