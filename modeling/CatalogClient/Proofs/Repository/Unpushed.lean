/-
# Commits that were not pushed

Over any calls of any synchronizers of one repository, a commit waits until a push is taken. A call
that succeeds and has a remote pushes what it commits, and with it all that waited. But nobody looks
whether the remote takes what is pushed, so it may all wait on. And a synchronization that finds
nothing to commit does not push, and succeeds all the same: what an earlier call could not push
still waits after it.
-/

import CatalogClient.Proofs.Repository.Containment

namespace CatalogClient

namespace GitBehaviour

/-- The commits that wait to be pushed after one more action. A push that the remote takes has all
of them along, and in a new clone there are none. -/
def waiting (git : GitBehaviour) (commits : List Toml) (action : GitAction) : List Toml :=
  if git.refuses action then commits
  else
    match action with
    | .commit message => commits ++ [message]
    | .clone _ _ _ => []
    | .push => if git.takesPush then [] else commits
    | .openExisting _ | .setUp _ | .pull | .add => commits

/-- The commits that are made by some actions. -/
def made (git : GitBehaviour) (actions : List GitAction) : List Toml :=
  actions.filterMap fun action =>
    match action with
    | .commit message => if git.refuses (.commit message) then none else some message
    | _ => none

end GitBehaviour

namespace Synchronizer

open GitBehaviour

namespace Turn

variable {turn : Turn} {synchronizer : Synchronizer} {commits : List Toml}

/-- The commits that wait to be pushed after a call. -/
def waiting (turn : Turn) (synchronizer : Synchronizer) (commits : List Toml) : List Toml :=
  (turn.asked synchronizer).foldl turn.git.waiting commits

/-- What waits after some actions waited before, or was committed by one of them. -/
theorem mem_of_mem_foldl_waiting {git : GitBehaviour} {actions : List GitAction} {commit : Toml}
    (h : commit ∈ actions.foldl git.waiting commits) :
    commit ∈ commits ∨ .commit commit ∈ actions ∧ git.refuses (.commit commit) = false := by
  induction actions generalizing commits with
  | nil => exact .inl h
  | cons action rest ih =>
      rcases ih h with hmem | ⟨hmem, haccepted⟩
      · unfold GitBehaviour.waiting at hmem
        split at hmem
        · exact .inl hmem
        · next haccepted =>
            split at hmem
            · next message =>
                rcases List.mem_append.mp hmem with hmem | hmem
                · exact .inl hmem
                · obtain rfl := List.mem_singleton.mp hmem
                  exact .inr ⟨List.mem_cons_self, by simpa using haccepted⟩
            · cases hmem
            · split at hmem
              · cases hmem
              · exact .inl hmem
            all_goals exact .inl hmem
      · exact .inr ⟨List.mem_cons_of_mem _ hmem, haccepted⟩

/-- A call succeeds if it does not end with an error. -/
theorem succeeded_iff :
    (turn.outcome synchronizer).succeeded = true ↔ turn.error? synchronizer = none := by
  rw [Outcome.succeeded, (turn.ends synchronizer).answer]
  cases turn.error? synchronizer with
  | none => simp
  | some error => cases error <;> simp [GitError.answer]

/-- A call that succeeds has carried out its plan, and nothing of it was refused. -/
theorem asked_of_succeeded (h : (turn.outcome synchronizer).succeeded = true) :
    turn.isStuck synchronizer = false ∧ turn.asked synchronizer = turn.plan synchronizer ∧
      ∀ action ∈ turn.plan synchronizer, turn.git.refuses action = false := by
  rw [succeeded_iff, Turn.error?] at h
  split at h
  · cases h
  · next hstuck =>
      have haccepted := (synchronizer.findSome?_error?_eq_none_iff turn.git _).mp h
      refine ⟨by simpa using hstuck, ?_, haccepted⟩
      rw [asked_eq, carriedOut_eq_self haccepted]

/-- Nothing waits after a repository was cloned, and the same as before if it was opened. -/
theorem waiting_opening
    (h : ∀ action ∈ turn.opening synchronizer, turn.git.refuses action = false) :
    (turn.opening synchronizer).foldl turn.git.waiting commits =
      if .clone ∈ turn.openingOperations synchronizer then [] else commits := by
  rw [openingOperations, carriedOut_eq_self h]
  unfold opening at h ⊢
  split
  · next hopens =>
      simp only [hopens, if_true] at h
      unfold openingPlan at h ⊢
      split
      · cases hpulls : synchronizer.pulls turn.git <;>
          simp_all [GitBehaviour.waiting, List.filterMap_cons, GitAction.operation?]
      · cases hurl : synchronizer.remoteUrl.filter Toml.isSet <;>
          simp_all [GitBehaviour.waiting, GitAction.operation?]
  · rfl

/-- Nothing is committed to open a repository. -/
theorem made_opening : turn.git.made (turn.opening synchronizer) = [] := by
  unfold opening openingPlan
  split
  · split
    · cases synchronizer.pulls turn.git <;> rfl
    · cases synchronizer.remoteUrl.filter Toml.isSet <;> rfl
  · rfl

/-- Nothing waits after a commit if there is a remote that takes it, since it is pushed with all
that waited. -/
theorem waiting_publishing
    (h : ∀ action ∈ turn.publishing synchronizer, turn.git.refuses action = false)
    (horigin : turn.git.hasOrigin = true) :
    (turn.publishing synchronizer).foldl turn.git.waiting commits =
      if .commit ∈ turn.publishingOperations synchronizer ∧ turn.git.takesPush = true then []
      else commits ++ turn.git.made (turn.publishing synchronizer) := by
  rw [publishingOperations, carriedOut_eq_self h]
  unfold publishing at h ⊢
  cases hcall : turn.call with
  | prepare => simp [GitBehaviour.made]
  | sync message =>
      rw [hcall] at h
      cases hstuck : turn.isStuck synchronizer with
      | true => simp [GitBehaviour.made]
      | false =>
          cases hclean : turn.git.isClean <;> cases htakes : turn.git.takesPush <;>
            simp_all [publishingPlan, GitBehaviour.waiting, GitBehaviour.made, List.filterMap_cons,
              GitAction.operation?]

/-- The commits that are made in a call. -/
def committed (turn : Turn) (synchronizer : Synchronizer) : List Toml :=
  turn.git.made (turn.asked synchronizer)

/-- A call that succeeds and has a remote leaves nothing to be pushed if it commits and the remote
takes the push. Otherwise what waited before waits on, unless the repository is cloned in the call,
and so does what is committed. -/
theorem waiting_of_succeeded (hdone : (turn.outcome synchronizer).succeeded = true)
    (horigin : turn.git.hasOrigin = true) :
    turn.waiting synchronizer commits =
      if .commit ∈ turn.operations synchronizer ∧ turn.git.takesPush = true then []
      else (if .clone ∈ turn.operations synchronizer then [] else commits) ++
        turn.committed synchronizer := by
  obtain ⟨-, hasked, haccepted⟩ := asked_of_succeeded hdone
  obtain ⟨hopening, hpublishing⟩ := List.forall_mem_append.mp haccepted
  have hsplit : turn.operations synchronizer =
      turn.openingOperations synchronizer ++ turn.publishingOperations synchronizer := by
    rw [operations, hasked, plan, List.filterMap_append, openingOperations, publishingOperations,
      carriedOut_eq_self hopening, carriedOut_eq_self hpublishing]
  have hcommit : .commit ∉ turn.openingOperations synchronizer := by
    intro hmem
    cases publishes_of_mem_openingOperations hmem
  have hclone : .clone ∉ turn.publishingOperations synchronizer := by
    intro hmem
    cases publishes_of_mem_publishingOperations hmem
  have hmade : turn.committed synchronizer = turn.git.made (turn.publishing synchronizer) := by
    rw [committed, hasked, plan, GitBehaviour.made, List.filterMap_append]
    exact congrArg (· ++ _) made_opening
  rw [waiting, hasked, plan, List.foldl_append, waiting_opening hopening,
    waiting_publishing hpublishing horigin, hsplit, hmade]
  simp only [List.mem_append, hcommit, hclone, false_or, or_false]

theorem mem_committed {commit : Toml} (h : commit ∈ turn.committed synchronizer) :
    .commit commit ∈ turn.asked synchronizer ∧ turn.git.refuses (.commit commit) = false := by
  obtain ⟨action, hmem, hmade⟩ := List.mem_filterMap.mp h
  split at hmade
  · next message =>
      split at hmade
      · cases hmade
      · next haccepted =>
          obtain rfl := Option.some.inj hmade
          exact ⟨hmem, by simpa using haccepted⟩
  · cases hmade

theorem committed_eq_nil (h : .commit ∉ turn.operations synchronizer) :
    turn.committed synchronizer = [] := by
  refine List.eq_nil_iff_forall_not_mem.mpr fun commit hmem => h ?_
  exact List.mem_filterMap.mpr ⟨_, (mem_committed hmem).1, rfl⟩

/-- A call that succeeds and has a remote that takes the push leaves nothing to be pushed if it
commits, or if the repository is cloned in it. Otherwise what waited before waits on. -/
theorem waiting_of_taken (hdone : (turn.outcome synchronizer).succeeded = true)
    (horigin : turn.git.hasOrigin = true) (htakes : turn.git.takesPush = true) :
    turn.waiting synchronizer commits =
      if .commit ∈ turn.operations synchronizer ∨ .clone ∈ turn.operations synchronizer then []
      else commits := by
  rw [waiting_of_succeeded hdone horigin]
  by_cases hcommit : .commit ∈ turn.operations synchronizer
  · simp [hcommit, htakes]
  · simp [hcommit, committed_eq_nil hcommit]

/-- A call leaves a commit behind if it makes it, but then does not succeed, or has no remote, or
has one that does not take the push. -/
def LeavesBehind (turn : Turn) (synchronizer : Synchronizer) (commit : Toml) : Prop :=
  (.commit commit ∈ turn.asked synchronizer ∧ turn.git.refuses (.commit commit) = false) ∧
    ((turn.outcome synchronizer).succeeded = false ∨ turn.git.hasOrigin = false ∨
      turn.git.takesPush = false)

theorem mem_of_mem_waiting {commit : Toml} (h : commit ∈ turn.waiting synchronizer commits) :
    commit ∈ commits ∨ turn.LeavesBehind synchronizer commit := by
  by_cases hpushed : (turn.outcome synchronizer).succeeded = true ∧ turn.git.hasOrigin = true ∧
      turn.git.takesPush = true
  · rw [waiting_of_taken hpushed.1 hpushed.2.1 hpushed.2.2] at h
    split at h
    · cases h
    · exact .inl h
  · rcases mem_of_mem_foldl_waiting h with hmem | hmade
    · exact .inl hmem
    · simp only [Decidable.not_and_iff_or_not, Bool.not_eq_true] at hpushed
      exact .inr ⟨hmade, hpushed⟩

/-- A synchronization that succeeds commits unless there is nothing to commit. -/
theorem committed_iff (hsync : turn.call ≠ .prepare)
    (hdone : (turn.outcome synchronizer).succeeded = true) :
    .commit ∈ turn.operations synchronizer ↔ turn.git.isClean = false := by
  obtain ⟨hstuck, hasked, haccepted⟩ := asked_of_succeeded hdone
  obtain ⟨hopening, -⟩ := List.forall_mem_append.mp haccepted
  have hcommit : .commit ∉ (turn.opening synchronizer).filterMap GitAction.operation? := by
    intro hmem
    rw [← carriedOut_eq_self hopening] at hmem
    exact nomatch publishes_of_mem_openingOperations hmem
  rw [operations, hasked, plan, List.filterMap_append, List.mem_append, publishing]
  cases hcall : turn.call with
  | prepare => exact absurd hcall hsync
  | sync message =>
      cases hclean : turn.git.isClean <;> cases horigin : turn.git.hasOrigin <;>
        simp [hstuck, hcommit, publishingPlan, List.filterMap_cons, GitAction.operation?, hclean,
          horigin]

end Turn

/-- The commits that wait to be pushed after some calls for one repository, each with the
synchronizer as it was. -/
def waitingAfter (history : List (Synchronizer × Turn)) : List Toml :=
  history.foldl (fun commits call => call.2.waiting call.1 commits) []

theorem waitingAfter_concat (history : List (Synchronizer × Turn)) (synchronizer : Synchronizer)
    (turn : Turn) :
    waitingAfter (history ++ [(synchronizer, turn)]) =
      turn.waiting synchronizer (waitingAfter history) := by
  rw [waitingAfter, List.foldl_append]
  rfl

/-- A commit that waits after some calls waited before them, or one of them has left it behind. -/
theorem leavesBehind_of_mem_foldl {commit : Toml} {history : List (Synchronizer × Turn)}
    {waited : List Toml}
    (h : commit ∈ history.foldl (fun commits call => call.2.waiting call.1 commits) waited) :
    commit ∈ waited ∨ ∃ call ∈ history, call.2.LeavesBehind call.1 commit := by
  induction history generalizing waited with
  | nil => exact .inl h
  | cons call rest ih =>
      rcases ih h with hmem | ⟨later, hmem, hleft⟩
      · refine (Turn.mem_of_mem_waiting hmem).imp_right fun hleft => ?_
        exact ⟨call, List.mem_cons_self, hleft⟩
      · exact .inr ⟨later, List.mem_cons_of_mem _ hmem, hleft⟩

theorem leavesBehind_of_mem_waitingAfter {history : List (Synchronizer × Turn)} {commit : Toml}
    (h : commit ∈ waitingAfter history) :
    ∃ call ∈ history, call.2.LeavesBehind call.1 commit :=
  (leavesBehind_of_mem_foldl h).resolve_left List.not_mem_nil

/-- After a synchronization that succeeds and has a remote that takes the push, what it committed is
pushed, and so is everything that waited before. But if it finds nothing to commit, and the
repository was not cloned just now, then all that waited before waits on. If the remote does not
take the push, what it committed waits as well. What waited was committed in calls that did not
succeed or whose push found no remote that took it. -/
theorem sync_pushes_unless_clean (history : List (Synchronizer × Turn))
    (synchronizer : Synchronizer) (turn : Turn) (hsync : turn.call ≠ .prepare)
    (hdone : (turn.outcome synchronizer).succeeded = true) (horigin : turn.git.hasOrigin = true) :
    (.commit ∈ turn.operations synchronizer ↔ turn.git.isClean = false) ∧
      (turn.git.takesPush = true → waitingAfter (history ++ [(synchronizer, turn)]) =
        if .commit ∈ turn.operations synchronizer ∨ .clone ∈ turn.operations synchronizer then []
        else waitingAfter history) ∧
      (turn.git.takesPush = false → waitingAfter (history ++ [(synchronizer, turn)]) =
        (if .clone ∈ turn.operations synchronizer then [] else waitingAfter history) ++
          turn.committed synchronizer) ∧
      ∀ commit ∈ waitingAfter history,
        ∃ call ∈ history, call.2.LeavesBehind call.1 commit := by
  rw [waitingAfter_concat]
  refine ⟨Turn.committed_iff hsync hdone, Turn.waiting_of_taken hdone horigin, fun hturned => ?_,
    fun _ => leavesBehind_of_mem_waitingAfter⟩
  rw [Turn.waiting_of_succeeded hdone horigin, hturned, if_neg fun h => Bool.false_ne_true h.2]

namespace Sample

/-- A synchronization that finds nothing to commit. -/
def clean : Turn where
  call := .sync (.string "second")
  git := { isDirty := false }
  start := repository

end Sample

theorem sync_pushes_unless_clean_sample :
    Sample.clean.call ≠ .prepare ∧
      (Sample.clean.outcome Sample.synchronizer).succeeded = true ∧
      Sample.clean.git.hasOrigin = true ∧
      waitingAfter [(Sample.synchronizer, Sample.refused), (Sample.synchronizer, Sample.clean)] =
        [.string "first"] := by
  have hdone : (Sample.clean.outcome Sample.synchronizer).succeeded = true := by decide +kernel
  refine ⟨nofun, hdone, rfl, ?_⟩
  have h := (sync_pushes_unless_clean [(Sample.synchronizer, Sample.refused)] Sample.synchronizer
    Sample.clean nofun hdone rfl).2.1 rfl
  rw [List.singleton_append] at h
  rw [h]
  decide +kernel

end Synchronizer

end CatalogClient
