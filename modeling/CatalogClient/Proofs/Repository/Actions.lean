/-
# The actions that open a repository

Before a generation a repository is opened and pulled, or cloned. A client is published by the other
actions: what it has changed is added, committed and pushed. The log of a session tells the two
apart, since every action is noted in it, also one that the repository refuses.
-/

import CatalogClient.Proofs.Session
import CatalogClient.Repository.Synchronizer

namespace CatalogClient

/-- Whether an action is a part of publishing a client. -/
def GitOperation.publishes : GitOperation → Bool
  | .add | .commit | .push => true
  | .openExisting | .clone | .pull => false

/-- Whether an action publishes something. -/
def GitAction.publishes (action : GitAction) : Bool :=
  action.operation?.any GitOperation.publishes

namespace Session

/-- Whether all that was asked of a repository since an earlier session publishes nothing. -/
def OpensOnly (start next : Session) : Prop :=
  ∃ actions, next.actions = start.actions ++ actions ∧
    ∀ action ∈ actions, action.publishes = false

theorem OpensOnly.of_actions_eq {start next : Session} (h : next.actions = start.actions) :
    OpensOnly start next :=
  ⟨[], by rw [h, List.append_nil], List.forall_mem_nil _⟩

theorem OpensOnly.act (session : Session) {action : GitAction} (h : action.publishes = false) :
    OpensOnly session (session.act action) :=
  ⟨[action], rfl, List.forall_mem_singleton.mpr h⟩

theorem OpensOnly.trans {first middle last : Session} (hmiddle : OpensOnly first middle)
    (hlast : OpensOnly middle last) : OpensOnly first last := by
  obtain ⟨earlier, hearlier, hopened⟩ := hmiddle
  obtain ⟨later, hlater, hleft⟩ := hlast
  refine ⟨earlier ++ later, by rw [hlater, hearlier, List.append_assoc], ?_⟩
  intro action haction
  rcases List.mem_append.mp haction with haction | haction
  · exact hopened action haction
  · exact hleft action haction

theorem opensOnly_ignoresReports : IgnoresReports OpensOnly where
  refl _ := .of_actions_eq rfl
  trans _ _ _ := OpensOnly.trans
  print _ _ := .of_actions_eq rfl
  notes _ _ := .of_actions_eq rfl

end Session

namespace Synchronizer

open Session

variable (synchronizer : Synchronizer) (git : GitBehaviour)

theorem opens_request {action : GitAction} (haction : action.publishes = false)
    (operation : GitOperation) :
    Staged.Effects OpensOnly (synchronizer.request git action operation) :=
  fun start => .act start haction

theorem opens_openExisting : Staged.Effects OpensOnly (synchronizer.openExisting git) := by
  have hR := opensOnly_ignoresReports
  unfold openExisting
  apply Run.keeps_bind hR (Run.keeps_note hR _ _)
  intro _
  apply Run.keeps_bind hR (synchronizer.opens_request git rfl _)
  intro _
  split
  · apply Run.keeps_bind hR fun start => .act start rfl
    intro _
    exact Run.keeps_bind hR (synchronizer.opens_request git rfl _) fun _ => Run.keeps_note hR _ _
  · exact Run.keeps_pure hR _

theorem opens_clone (url : Toml) : Staged.Effects OpensOnly (synchronizer.clone git url) := by
  have hR := opensOnly_ignoresReports
  unfold clone
  apply Run.keeps_bind hR (Run.keeps_note hR _ _)
  intro _
  exact Run.keeps_bind hR (synchronizer.opens_request git rfl _)
    fun _ start => .of_actions_eq rfl

theorem opens_openOrClone : Staged.Effects OpensOnly (synchronizer.openOrClone git) := by
  have hR := opensOnly_ignoresReports
  unfold openOrClone
  apply Run.keeps_bind hR (Run.keeps_files hR)
  intro files
  split
  · exact synchronizer.opens_openExisting git
  · split
    · exact synchronizer.opens_clone git _
    · exact Run.keeps_throw hR _

/-- How a synchronization ends has no part in what was asked for. -/
theorem actions_settle (ended : Session × Except GitError Unit) :
    (synchronizer.settle ended).session.actions = ended.1.actions := by
  obtain ⟨session, outcome⟩ := ended
  cases outcome with
  | ok _ => rfl
  | error error => cases error <;> rfl

theorem opens_prepare (start : Session) :
    OpensOnly start (synchronizer.prepare git start).session := by
  have hopened := synchronizer.opens_openOrClone git start
  unfold prepare
  rcases hrun : synchronizer.openOrClone git start with ⟨session, outcome⟩
  rw [hrun] at hopened
  cases outcome with
  | ok _ => exact hopened
  | error error => exact hopened.trans (.of_actions_eq (synchronizer.actions_settle _))

end Synchronizer

end CatalogClient
