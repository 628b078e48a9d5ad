/-
# Calls of a synchronizer

A call of a synchronizer opens or clones its repository, unless that was done before, and publishes
the changes. What it asks for, what it reports and what it answers follow from its plan, and over
many calls only one thing is remembered: whether the repository has been opened.
-/

import CatalogClient.Proofs.Repository.Plans

namespace CatalogClient

namespace Synchronizer

/-- A call of a synchronizer. -/
inductive Call
  | prepare
  | sync (message : Toml)

/-- A call, how the repository behaves meanwhile, and the session in which the call is made. -/
structure Turn where
  call : Call
  git : GitBehaviour
  start : Session

end Synchronizer

/-- The fault that is reported where a call ends with an error, if it is caught. -/
def GitError.fault? : GitError → Option GitFault
  | .fault caught => some caught
  | .raised _ => none

/-- The answer of a call that ends with an error. It has none if the error is not caught. -/
def GitError.answer : GitError → Except GitFailure Bool
  | .fault _ => .ok false
  | .raised failure => .error failure

namespace Synchronizer

open GitBehaviour

namespace Turn

variable (turn : Turn) (synchronizer : Synchronizer)

/-- What a call leaves and answers. It does so whatever is refused. -/
def outcome : Outcome :=
  match turn.call with
  | .prepare => synchronizer.prepare turn.git turn.start
  | .sync message => synchronizer.sync turn.git message turn.start

/-- Whether the repository has to be opened or cloned in a call. -/
def opens : Bool :=
  match turn.call with
  | .prepare => true
  | .sync _ => !synchronizer.isOpen

/-- Whether there is nothing to be opened or cloned in a call that needs it. -/
def isStuck : Bool :=
  turn.opens synchronizer && synchronizer.isNowhere turn.start.files

/-- What a call asks for to open the repository, if it has to and nothing is refused. -/
def opening : List GitAction :=
  if turn.opens synchronizer && !turn.isStuck synchronizer then
    synchronizer.openingPlan turn.git turn.start.files
  else []

/-- What a call asks for to publish the changes if nothing is refused. -/
def publishing : List GitAction :=
  match turn.call with
  | .prepare => []
  | .sync message =>
      if turn.isStuck synchronizer then [] else synchronizer.publishingPlan turn.git message

/-- What a call asks for if nothing is refused. -/
def plan : List GitAction :=
  turn.opening synchronizer ++ turn.publishing synchronizer

/-- The error that a call ends with, if it does not succeed. -/
def error? : Option GitError :=
  if turn.isStuck synchronizer then some (.fault synchronizer.nowhere)
  else (turn.plan synchronizer).findSome? (synchronizer.error? turn.git)

/-- Whether the repository is opened or cloned in a call. -/
def hasOpened : Bool :=
  turn.opens synchronizer && !turn.isStuck synchronizer &&
    (turn.opening synchronizer).all fun action => !turn.git.refuses action

variable {turn synchronizer} {start : Session} {git : GitBehaviour}

theorem openOrClone_of_nowhere (h : synchronizer.isNowhere start.files = true) :
    synchronizer.openOrClone git start = (start, .error (.fault synchronizer.nowhere)) := by
  obtain ⟨hplace, hremote⟩ := Bool.and_eq_true_iff.mp h
  rw [Bool.not_eq_true', isGiven_eq_isSome_filter, Option.isSome_eq_false_iff,
    Option.isNone_iff_eq_none] at hremote
  rw [openOrClone_eq, hremote, if_neg (by simpa using hplace)]

theorem prepare_eq (ended : Session × Except GitError Unit)
    (h : synchronizer.openOrClone git start = ended) :
    synchronizer.prepare git start =
      settle { synchronizer with isOpen := synchronizer.isOpen || ended.2.isOk } ended := by
  obtain ⟨session, outcome⟩ := ended
  unfold Synchronizer.prepare
  rw [h]
  cases outcome with
  | ok _ => simp [settle, Except.isOk, Except.toBool]
  | error error => cases error <;> simp [settle, Except.isOk, Except.toBool]

theorem sync_eq (message : Toml) (h : synchronizer.isOpen = false) :
    synchronizer.sync git message start =
      settle { synchronizer with isOpen := (synchronizer.openOrClone git start).2.isOk }
        ((synchronizer.openOrClone git >>= fun _ => synchronizer.publish git message) start) := by
  rcases hrun : synchronizer.openOrClone git start with ⟨session, outcome⟩
  unfold Synchronizer.sync
  rw [h, hrun]
  cases outcome with
  | ok _ =>
      rw [Staged.bind_of_ok hrun]
      rfl
  | error error =>
      rw [Staged.bind_of_error hrun]
      obtain ⟨directory, remoteUrl, username, token, isOpen⟩ := synchronizer
      obtain rfl := h
      rfl

/-- What follows from the plan of a call. -/
structure Ends (turn : Turn) (synchronizer : Synchronizer) : Prop where
  actions : (turn.outcome synchronizer).session.actions =
    turn.start.actions ++ turn.git.carriedOut (turn.plan synchronizer)
  log : ∃ log : Log, (∀ record ∈ log, record.severity ≠ .error) ∧
    (turn.outcome synchronizer).session.log = turn.start.log ++
      (log ++ ((turn.error? synchronizer).bind GitError.fault?).toList.map
        fun fault => ⟨.error, fault.message⟩)
  answer : (turn.outcome synchronizer).answer =
    match turn.error? synchronizer with
    | none => .ok true
    | some error => error.answer
  synchronizer : (turn.outcome synchronizer).synchronizer =
    { synchronizer with isOpen := synchronizer.isOpen || turn.hasOpened synchronizer }

/-- A call that carries out its plan ends as it says. -/
theorem ends_of_carriesOut {ended : Session × Except GitError Unit}
    (hplan : synchronizer.CarriesOut turn.git turn.start (turn.plan synchronizer) () ended)
    (hstuck : turn.isStuck synchronizer = false)
    (houtcome : turn.outcome synchronizer =
      settle { synchronizer with isOpen := synchronizer.isOpen || turn.hasOpened synchronizer }
        ended) : turn.Ends synchronizer := by
  obtain ⟨hactions, ⟨log, hlog, hquiet⟩, hend⟩ := hplan
  obtain ⟨session, result⟩ := ended
  have herror : turn.error? synchronizer =
      (turn.plan synchronizer).findSome? (synchronizer.error? turn.git) := by
    rw [error?, hstuck, if_neg Bool.false_ne_true]
  rw [← herror] at hend
  have hasked : (turn.outcome synchronizer).session.actions =
      turn.start.actions ++ turn.git.carriedOut (turn.plan synchronizer) := by
    rw [houtcome, actions_settle]
    exact hactions
  cases hfound : turn.error? synchronizer with
  | none =>
      simp only [hfound] at hend
      subst hend
      refine ⟨hasked, ⟨log, hquiet, ?_⟩, ?_, houtcome ▸ rfl⟩
      · rw [houtcome, hfound, Option.bind_none, Option.toList_none, List.map_nil, List.append_nil]
        exact hlog
      · rw [houtcome, hfound]
        rfl
  | some error =>
      simp only [hfound] at hend
      subst hend
      cases error with
      | fault fault =>
          refine ⟨hasked, ⟨log, hquiet, ?_⟩, ?_, houtcome ▸ rfl⟩
          · rw [houtcome, hfound, ← List.append_assoc, ← hlog]
            rfl
          · rw [houtcome, hfound]
            rfl
      | raised failure =>
          refine ⟨hasked, ⟨log, hquiet, ?_⟩, ?_, houtcome ▸ rfl⟩
          · rw [houtcome, hfound, ← List.append_assoc, ← hlog]
            exact (List.append_nil _).symm
          · rw [houtcome, hfound]
            rfl

theorem isOk_openOrClone (h : synchronizer.isNowhere start.files = false) :
    (synchronizer.openOrClone git start).2.isOk =
      (synchronizer.openingPlan git start.files).all fun action => !git.refuses action := by
  rw [(carriesOut_openOrClone h).outcome]
  cases herror : (synchronizer.openingPlan git start.files).findSome? (synchronizer.error? git) with
  | none =>
      have haccepted := (synchronizer.findSome?_error?_eq_none_iff git _).mp herror
      simpa [Except.isOk, Except.toBool] using haccepted
  | some error =>
      obtain ⟨action, hmem, hfound⟩ := List.exists_of_findSome?_eq_some herror
      have hrefused : git.refuses action = true := by
        rw [← synchronizer.isSome_error?, hfound]
        rfl
      simpa [Except.isOk, Except.toBool] using ⟨action, hmem, hrefused⟩

theorem outcome_of_isStuck (h : turn.isStuck synchronizer = true) :
    turn.outcome synchronizer =
      ⟨synchronizer, turn.start.note .error synchronizer.nowhere.message, .ok false⟩ := by
  obtain ⟨call, git, start⟩ := turn
  obtain ⟨hopens, hnowhere⟩ := Bool.and_eq_true_iff.mp h
  have hrun : synchronizer.openOrClone git start =
      (start, .error (.fault synchronizer.nowhere)) :=
    openOrClone_of_nowhere hnowhere
  cases call with
  | prepare =>
      show synchronizer.prepare git start = _
      rw [prepare_eq _ hrun]
      simp [settle, Except.isOk, Except.toBool]
  | sync message =>
      have hclosed : synchronizer.isOpen = false := by simpa [opens] using hopens
      show synchronizer.sync git message start = _
      rw [sync_eq message hclosed, hrun, Staged.bind_of_error hrun]
      obtain ⟨directory, remoteUrl, username, token, isOpen⟩ := synchronizer
      obtain rfl := hclosed
      rfl

theorem plan_of_isStuck (h : turn.isStuck synchronizer = true) : turn.plan synchronizer = [] := by
  unfold plan opening publishing
  rw [h, Bool.not_true, Bool.and_false]
  cases turn.call <;> rfl

/-- Every call ends as its plan says. -/
theorem ends (turn : Turn) (synchronizer : Synchronizer) : turn.Ends synchronizer := by
  by_cases hstuck : turn.isStuck synchronizer = true
  · have houtcome := outcome_of_isStuck hstuck
    have herror : turn.error? synchronizer = some (.fault synchronizer.nowhere) := if_pos hstuck
    refine ⟨?_, ⟨[], List.forall_mem_nil _, ?_⟩, ?_, ?_⟩
    · rw [houtcome, plan_of_isStuck hstuck]
      exact (List.append_nil _).symm
    · rw [houtcome, herror]
      rfl
    · rw [houtcome, herror]
      rfl
    · simp [houtcome, hasOpened, hstuck]
  · rw [Bool.not_eq_true] at hstuck
    obtain ⟨call, git, start⟩ := turn
    cases call with
    | prepare =>
        have hplace : synchronizer.isNowhere start.files = false := hstuck
        refine ends_of_carriesOut (?_ : synchronizer.CarriesOut git start _ ()
          (synchronizer.openOrClone git start)) hstuck ?_
        · simpa [plan, opening, publishing, hstuck, opens] using carriesOut_openOrClone hplace
        · show synchronizer.prepare git start = _
          rw [prepare_eq _ rfl, isOk_openOrClone hplace, hasOpened, opening, hstuck]
          rfl
    | sync message =>
        cases hopen : synchronizer.isOpen with
        | true =>
            refine ends_of_carriesOut (?_ : synchronizer.CarriesOut git start _ ()
              (synchronizer.publish git message start)) hstuck ?_
            · simpa [plan, opening, publishing, hstuck, opens, hopen] using
                carriesOut_publish message
            · have hkept : { synchronizer with isOpen := true } = synchronizer := by rw [← hopen]
              show synchronizer.sync git message start = _
              rw [hopen, Bool.true_or, hkept, Synchronizer.sync, if_pos hopen]
        | false =>
            have hplace : synchronizer.isNowhere start.files = false := by
              simpa [isStuck, opens, hopen] using hstuck
            refine ends_of_carriesOut (?_ : synchronizer.CarriesOut git start _ ()
              ((synchronizer.openOrClone git >>= fun _ => synchronizer.publish git message)
                start)) hstuck ?_
            · simpa [plan, opening, publishing, hstuck, opens, hopen] using
                (carriesOut_openOrClone hplace).bind fun _ => carriesOut_publish message
            · show synchronizer.sync git message start = _
              rw [sync_eq message hopen, isOk_openOrClone hplace, hasOpened, opening, hstuck, hopen]
              simp [opens, hopen]

end Turn

end Synchronizer

end CatalogClient
