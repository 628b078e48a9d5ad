/-
# The order of what is asked for

A call opens the repository that is there and pulls, or clones one, unless the repository is open
already. Then it adds, commits and pushes the changes, if it publishes any. So what it asks for are
some first steps of the one, followed by some first steps of the other, and it goes from the one to
the other only if nothing was refused.
-/

import CatalogClient.Proofs.Repository.Calls

namespace CatalogClient

namespace Synchronizer

open GitBehaviour

namespace Turn

variable (turn : Turn) (synchronizer : Synchronizer)

/-- What a call asks of the repository. -/
def asked : List GitAction :=
  (turn.outcome synchronizer).session.actions.drop turn.start.actions.length

/-- The kinds of the actions that a call asks for. -/
def operations : List GitOperation :=
  (turn.asked synchronizer).filterMap GitAction.operation?

theorem asked_eq : turn.asked synchronizer = turn.git.carriedOut (turn.plan synchronizer) := by
  rw [asked, (turn.ends synchronizer).actions, List.drop_left]

variable {turn synchronizer} {git : GitBehaviour} {files : FileSystem}

theorem refuses_eq {action : GitAction} {operation : GitOperation}
    (h : action.operation? = some operation) :
    git.refuses action = (git.failure operation).isSome := by
  rw [refuses, h]
  rfl

/-- The kinds of the actions that are asked for to open the repository: it is opened and pulled, or
cloned. -/
theorem operations_openingPlan :
    (git.carriedOut (synchronizer.openingPlan git files)).filterMap GitAction.operation? =
      if synchronizer.hasRepository files then
        .openExisting ::
          if (git.failure .openExisting).isSome || !synchronizer.pulls git then [] else [.pull]
      else if isGiven synchronizer.remoteUrl then [.clone] else [] := by
  unfold openingPlan
  rw [isGiven_eq_isSome_filter]
  split
  · cases hopen : git.failure .openExisting <;> cases hpull : git.failure .pull <;>
      cases synchronizer.pulls git <;>
        simp [carriedOut, refuses, List.filterMap_cons, GitAction.operation?, hopen, hpull]
  · cases synchronizer.remoteUrl.filter Toml.isSet with
    | none => rfl
    | some url =>
        cases h : git.failure .clone <;> simp [carriedOut, refuses, GitAction.operation?, h]

/-- The kinds of the actions that are asked for to publish the changes: these are added, committed
and pushed. -/
theorem operations_publishingPlan (message : Toml) :
    (git.carriedOut (synchronizer.publishingPlan git message)).filterMap GitAction.operation? =
      .add ::
        if (git.failure .add).isSome || git.isClean then []
        else .commit ::
          if (git.failure .commit).isSome || !git.hasOrigin then [] else [.push] := by
  unfold publishingPlan
  cases hadd : git.failure .add <;> cases hcommit : git.failure .commit <;>
    cases hpush : git.failure .push <;> cases git.isClean <;> cases git.hasOrigin <;>
      simp [carriedOut, refuses, List.filterMap_cons, GitAction.operation?, hadd, hcommit, hpush]

/-- An action that is asked for is refused exactly if its kind is. -/
theorem exists_refused_iff {actions : List GitAction} :
    (∃ action ∈ actions, git.refuses action = true) ↔
      ∃ operation ∈ actions.filterMap GitAction.operation?,
        (git.failure operation).isSome = true := by
  simp only [List.mem_filterMap]
  constructor
  · rintro ⟨action, hmem, hrefused⟩
    unfold refuses at hrefused
    obtain ⟨operation, hoperation, -⟩ :=
      Option.bind_eq_some_iff.mp (Option.isSome_iff_exists.mp hrefused).choose_spec
    rw [hoperation] at hrefused
    exact ⟨operation, ⟨action, hmem, hoperation⟩, hrefused⟩
  · rintro ⟨operation, ⟨action, hmem, hoperation⟩, hfailure⟩
    exact ⟨action, hmem, (refuses_eq hoperation).trans hfailure⟩

/-- The kinds of the actions that a call asks for to open the repository. -/
def openingOperations (turn : Turn) (synchronizer : Synchronizer) : List GitOperation :=
  (turn.git.carriedOut (turn.opening synchronizer)).filterMap GitAction.operation?

/-- The repository is opened and pulled, or cloned, unless it is open already or there is none. -/
theorem openingOperations_eq (turn : Turn) (synchronizer : Synchronizer) :
    turn.openingOperations synchronizer =
      if turn.opens synchronizer && !turn.isStuck synchronizer then
        if synchronizer.hasRepository turn.start.files then
          .openExisting ::
            if (turn.git.failure .openExisting).isSome || !synchronizer.pulls turn.git then []
            else [.pull]
        else [.clone]
      else [] := by
  unfold openingOperations opening
  cases hopens : turn.opens synchronizer && !turn.isStuck synchronizer with
  | false => rfl
  | true =>
      rw [if_pos rfl, if_pos rfl, operations_openingPlan]
      split
      · rfl
      · next hplace =>
          have hremote : isGiven synchronizer.remoteUrl = true := by
            simp only [isStuck, isNowhere, Bool.and_eq_true, Bool.not_eq_true'] at hopens
            simpa [hopens.1, hplace] using hopens.2
          rw [if_pos hremote]

theorem publishes_of_mem_openingOperations {operation : GitOperation}
    (h : operation ∈ turn.openingOperations synchronizer) : operation.publishes = false := by
  rw [openingOperations_eq] at h
  split at h
  · split at h
    · split at h
      · obtain rfl := List.mem_singleton.mp h
        rfl
      · simp only [List.mem_cons, List.not_mem_nil, or_false] at h
        rcases h with rfl | rfl <;> rfl
    · obtain rfl := List.mem_singleton.mp h
      rfl
  · cases h

theorem openingOperations_ne_nil_iff :
    turn.openingOperations synchronizer ≠ [] ↔
      turn.opens synchronizer = true ∧ turn.isStuck synchronizer = false := by
  rw [openingOperations_eq]
  cases turn.opens synchronizer <;> cases turn.isStuck synchronizer <;> simp
  split <;> simp

/-- The kinds of the actions that a call asks for to publish the changes. -/
def publishingOperations (turn : Turn) (synchronizer : Synchronizer) : List GitOperation :=
  (turn.git.carriedOut (turn.publishing synchronizer)).filterMap GitAction.operation?

/-- The changes are added, committed and pushed in a call that publishes. -/
theorem publishingOperations_eq_nil_or (turn : Turn) (synchronizer : Synchronizer) :
    turn.publishingOperations synchronizer = [] ∨
      turn.publishingOperations synchronizer =
        .add ::
          if (turn.git.failure .add).isSome || turn.git.isClean then []
          else .commit ::
            if (turn.git.failure .commit).isSome || !turn.git.hasOrigin then [] else [.push] := by
  unfold publishingOperations publishing
  split
  · exact .inl rfl
  · next message _ =>
      split
      · exact .inl rfl
      · exact .inr (operations_publishingPlan message)

theorem publishingOperations_prefix :
    turn.publishingOperations synchronizer <+: [.add, .commit, .push] := by
  rcases turn.publishingOperations_eq_nil_or synchronizer with h | h
  · exact h ▸ List.nil_prefix
  · rw [h]
    split
    · exact ⟨[.commit, .push], rfl⟩
    · split
      · exact ⟨[.push], rfl⟩
      · exact List.prefix_rfl

theorem publishes_of_mem_publishingOperations {operation : GitOperation}
    (h : operation ∈ turn.publishingOperations synchronizer) : operation.publishes = true := by
  have hmem := publishingOperations_prefix.subset h
  simp only [List.mem_cons, List.not_mem_nil, or_false] at hmem
  rcases hmem with rfl | rfl | rfl <;> rfl

/-- Whether nothing is refused of what is asked for to open the repository. -/
theorem all_opening_iff :
    ((turn.opening synchronizer).all fun action => !turn.git.refuses action) = true ↔
      ∀ operation ∈ turn.openingOperations synchronizer,
        turn.git.failure operation = none := by
  have hrefused := (exists_refused_carriedOut.symm.trans exists_refused_iff :
    (∃ action ∈ turn.opening synchronizer, turn.git.refuses action = true) ↔
      ∃ operation ∈ turn.openingOperations synchronizer, _)
  simpa using not_congr hrefused

/-- Nothing is published where opening the repository is refused. -/
theorem operations_of_refused
    (h : ∃ operation ∈ turn.openingOperations synchronizer,
      (turn.git.failure operation).isSome = true) :
    turn.operations synchronizer = turn.openingOperations synchronizer := by
  rw [operations, asked_eq, plan, carriedOut_of_refused, openingOperations]
  exact exists_refused_carriedOut.mp (exists_refused_iff.mpr h)

theorem operations_of_accepted
    (h : ∀ operation ∈ turn.openingOperations synchronizer,
      turn.git.failure operation = none) :
    turn.operations synchronizer = turn.openingOperations synchronizer ++
      turn.publishingOperations synchronizer := by
  have haccepted : ∀ action ∈ turn.opening synchronizer, turn.git.refuses action = false := by
    simpa using all_opening_iff.mpr h
  rw [operations, asked_eq, plan, carriedOut_of_accepted haccepted, List.filterMap_append,
    openingOperations, carriedOut_eq_self haccepted, publishingOperations]

/-- What is published is asked for after the repository is opened. -/
theorem mem_publishingOperations {operation : GitOperation}
    (h : operation ∈ turn.operations synchronizer) (hpublishes : operation.publishes = true) :
    operation ∈ turn.publishingOperations synchronizer ∧
      turn.operations synchronizer =
        turn.openingOperations synchronizer ++ turn.publishingOperations synchronizer := by
  have hforeign : operation ∉ turn.openingOperations synchronizer := by
    intro hmem
    cases (publishes_of_mem_openingOperations hmem).symm.trans hpublishes
  by_cases hrefused : ∃ operation ∈ turn.openingOperations synchronizer,
      (turn.git.failure operation).isSome = true
  · rw [operations_of_refused hrefused] at h
    exact absurd h hforeign
  · have hsplit := operations_of_accepted (by simpa using hrefused)
    rw [hsplit] at h
    exact ⟨(List.mem_append.mp h).resolve_left hforeign, hsplit⟩

/-- A commit comes after changes that were added. -/
theorem added_of_committed (h : .commit ∈ turn.publishingOperations synchronizer) :
    .add ∈ turn.publishingOperations synchronizer ∧ turn.git.failure .add = none := by
  rcases turn.publishingOperations_eq_nil_or synchronizer with heq | heq
  · rw [heq] at h
    cases h
  · rw [heq] at h ⊢
    refine ⟨List.mem_cons_self, ?_⟩
    cases hadd : turn.git.failure .add with
    | none => rfl
    | some failure => simp [hadd] at h

/-- A push comes after a commit that was made. -/
theorem committed_of_pushed (h : .push ∈ turn.publishingOperations synchronizer) :
    .commit ∈ turn.publishingOperations synchronizer ∧ turn.git.failure .commit = none := by
  rcases turn.publishingOperations_eq_nil_or synchronizer with heq | heq
  · rw [heq] at h
    cases h
  · rw [heq] at h ⊢
    cases hadd : (turn.git.failure .add).isSome || turn.git.isClean with
    | true => simp [hadd] at h
    | false =>
        cases hcommit : turn.git.failure .commit with
        | none => simp
        | some failure => simp [hadd, hcommit] at h

theorem opens_iff :
    turn.opens synchronizer = true ↔ turn.call = .prepare ∨ ¬synchronizer.isOpen = true := by
  unfold opens
  cases turn.call <;> simp

/-- The opening of a repository is complete unless it is refused, or there is nothing to pull. -/
theorem openingOperations_mem (turn : Turn) (synchronizer : Synchronizer) :
    turn.openingOperations synchronizer ∈ [[], [.openExisting], [.openExisting, .pull], [.clone]] ∧
      (turn.openingOperations synchronizer = [.openExisting] →
        turn.git.failure .openExisting ≠ none ∨ synchronizer.pulls turn.git = false) := by
  rw [openingOperations_eq]
  split
  · split
    · cases hopen : turn.git.failure .openExisting <;> cases hpull : synchronizer.pulls turn.git <;>
        simp
    · simp
  · simp

/-- Nothing is published unless the repository is open, or opened in the call. -/
theorem isOpen_of_published (h : turn.publishingOperations synchronizer ≠ [])
    (hnone : turn.openingOperations synchronizer = []) : synchronizer.isOpen = true := by
  by_cases hopens : turn.opens synchronizer = true
  · cases hstuck : turn.isStuck synchronizer with
    | true =>
        have hempty := (List.append_eq_nil_iff.mp (plan_of_isStuck hstuck)).2
        rw [publishingOperations, hempty] at h
        exact absurd rfl h
    | false => exact absurd hnone (openingOperations_ne_nil_iff.mpr ⟨hopens, hstuck⟩)
  · rw [opens_iff, not_or] at hopens
    exact Decidable.not_not.mp hopens.2

/-- What is asked for comes in order: first what opens the repository, and then, if that was
accepted, what publishes the changes. -/
theorem operations_eq_append (turn : Turn) (synchronizer : Synchronizer) :
    ∃ publishing, turn.operations synchronizer =
        turn.openingOperations synchronizer ++ publishing ∧
      publishing <+: [.add, .commit, .push] ∧
      (turn.call = .prepare → publishing = []) ∧
      (publishing ≠ [] →
        (∀ operation ∈ turn.openingOperations synchronizer, turn.git.failure operation = none) ∧
          (turn.openingOperations synchronizer = [] → synchronizer.isOpen = true)) := by
  by_cases hrefused : ∃ operation ∈ turn.openingOperations synchronizer,
      (turn.git.failure operation).isSome = true
  · refine ⟨[], ?_, List.nil_prefix, fun _ => rfl, fun h => absurd rfl h⟩
    rw [operations_of_refused hrefused, List.append_nil]
  · have haccepted : ∀ operation ∈ turn.openingOperations synchronizer,
        turn.git.failure operation = none := by
      simpa using hrefused
    refine ⟨turn.publishingOperations synchronizer, operations_of_accepted haccepted,
      publishingOperations_prefix, fun hcall => ?_, fun h => ⟨haccepted, isOpen_of_published h⟩⟩
    rw [publishingOperations, publishing, hcall]
    rfl

end Turn

end Synchronizer

end CatalogClient
