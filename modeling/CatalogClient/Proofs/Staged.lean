/-
# What staged computations do

A staged computation settles on the states with a property if it keeps the property and its outcome
does not depend on the state. What is put together from computations that settle does so too, and
its outcome is put together from theirs in the same way. The same goes for computations that may
fail more often than their outcomes say. And the effects of the parts, one after the other, are the
effect of the whole.
-/

import CatalogClient.Staged

namespace CatalogClient

theorem Except.mapError_eq_ok_iff {ε ε' α : Type} {outcome : Except ε α} {convert : ε → ε'}
    {value : α} : outcome.mapError convert = .ok value ↔ outcome = .ok value := by
  cases outcome with
  | error error => exact ⟨nofun, nofun⟩
  | ok found =>
      constructor
      · rintro ⟨⟩
        rfl
      · rintro ⟨⟩
        rfl

/-- Only what follows on the value of an outcome counts. -/
theorem Except.bind_congr {ε α β : Type} {outcome : Except ε α} {next others : α → Except ε β}
    (h : ∀ value, outcome = .ok value → next value = others value) :
    outcome >>= next = outcome >>= others := by
  cases outcome with
  | error error => rfl
  | ok value => exact h value rfl

namespace Staged

variable {σ ε ε' α β : Type}

theorem pure_bind (value : α) (next : α → Staged σ ε β) (start : σ) :
    ((pure value : Staged σ ε α) >>= next) start = next value start :=
  rfl

/-- A chain of computations ends well exactly if each of its parts does. -/
theorem bind_eq_ok_iff {first : Staged σ ε α} {next : α → Staged σ ε β} {start last : σ}
    {result : β} :
    (first >>= next) start = (last, .ok result) ↔
      ∃ middle value, first start = (middle, .ok value) ∧
        next value middle = (last, .ok result) := by
  rcases hfirst : first start with ⟨middle, outcome⟩
  cases outcome with
  | error error =>
      rw [bind_of_error hfirst]
      simp
  | ok value =>
      rw [bind_of_ok hfirst]
      constructor
      · intro hnext
        exact ⟨middle, value, rfl, hnext⟩
      · rintro ⟨_, _, hsame, hnext⟩
        cases hsame
        exact hnext

/-- A chain of computations fails exactly if its first part does, or what comes after it. -/
theorem bind_eq_error_iff {first : Staged σ ε α} {next : α → Staged σ ε β} {start last : σ}
    {error : ε} :
    (first >>= next) start = (last, .error error) ↔
      first start = (last, .error error) ∨
        ∃ middle value, first start = (middle, .ok value) ∧
          next value middle = (last, .error error) := by
  rcases hfirst : first start with ⟨middle, outcome⟩
  cases outcome with
  | error reason =>
      rw [bind_of_error hfirst]
      simp
  | ok value =>
      rw [bind_of_ok hfirst]
      constructor
      · intro hnext
        exact Or.inr ⟨middle, value, rfl, hnext⟩
      · rintro (hfailed | ⟨_, _, hsame, hnext⟩)
        · cases hfailed
        · cases hsame
          exact hnext

theorem mapError_eq_ok_iff {computation : Staged σ ε α} {convert : ε → ε'} {start last : σ}
    {value : α} :
    computation.mapError convert start = (last, .ok value) ↔
      computation start = (last, .ok value) := by
  rw [mapError, Prod.ext_iff, Prod.ext_iff, Except.mapError_eq_ok_iff]

section Settling

variable {holds : σ → Prop}

/-- On the states with a property, a computation always has the same outcome, and it keeps the
property, also where it fails. -/
def Settles (holds : σ → Prop) (computation : Staged σ ε α) (outcome : Except ε α) : Prop :=
  ∀ start, holds start → holds (computation start).1 ∧ (computation start).2 = outcome

theorem Settles.pure (value : α) :
    Settles holds (Pure.pure value : Staged σ ε α) (Pure.pure value) :=
  fun _ hstart => ⟨hstart, rfl⟩

theorem Settles.throw (error : ε) :
    Settles holds (MonadExcept.throw error : Staged σ ε α) (MonadExcept.throw error) :=
  fun _ hstart => ⟨hstart, rfl⟩

theorem Settles.bind {first : Staged σ ε α} {next : α → Staged σ ε β} {outcome : Except ε α}
    {others : α → Except ε β} (hfirst : Settles holds first outcome)
    (hnext : ∀ value, Settles holds (next value) (others value)) :
    Settles holds (first >>= next) (outcome >>= others) := by
  intro start hstart
  obtain ⟨hmiddle, houtcome⟩ := hfirst start hstart
  rcases hrun : first start with ⟨middle, result⟩
  rw [hrun] at hmiddle houtcome
  subst houtcome
  cases result with
  | error error =>
      rw [bind_of_error hrun]
      exact ⟨hmiddle, rfl⟩
  | ok value =>
      rw [bind_of_ok hrun]
      exact hnext value middle hmiddle

/-- A stage that only notes something has no part in the outcome. -/
theorem Settles.after {first : Staged σ ε α} {next : α → Staged σ ε β} {value : α}
    {outcome : Except ε β} (hfirst : Settles holds first (.ok value))
    (hnext : Settles holds (next value) outcome) : Settles holds (first >>= next) outcome := by
  intro start hstart
  obtain ⟨hmiddle, houtcome⟩ := hfirst start hstart
  rcases hrun : first start with ⟨middle, result⟩
  rw [hrun] at hmiddle houtcome
  subst houtcome
  rw [bind_of_ok hrun]
  exact hnext middle hmiddle

theorem Settles.mapError {computation : Staged σ ε α} {outcome : Except ε α}
    (h : Settles holds computation outcome) (convert : ε → ε') :
    Settles holds (computation.mapError convert) (outcome.mapError convert) := by
  intro start hstart
  obtain ⟨hkept, houtcome⟩ := h start hstart
  exact ⟨hkept, by rw [Staged.mapError, houtcome]⟩

end Settling

section Attaining

/-- Wherever a computation starts, it returns nothing but the value of an outcome. It may fail where
the outcome is a value. -/
def Attains (computation : Staged σ ε α) (outcome : Except ε α) : Prop :=
  ∀ start last value, computation start = (last, .ok value) → outcome = .ok value

theorem Attains.pure (value : α) :
    Attains (Pure.pure value : Staged σ ε α) (Pure.pure value) := by
  intro start last result h
  cases h
  rfl

theorem Attains.throw (error : ε) :
    Attains (MonadExcept.throw error : Staged σ ε α) (MonadExcept.throw error) := by
  intro start last result h
  cases h

theorem Attains.bind {first : Staged σ ε α} {next : α → Staged σ ε β} {outcome : Except ε α}
    {others : α → Except ε β} (hfirst : Attains first outcome)
    (hnext : ∀ value, Attains (next value) (others value)) :
    Attains (first >>= next) (outcome >>= others) := by
  intro start last result h
  obtain ⟨middle, value, hvalue, hresult⟩ := bind_eq_ok_iff.mp h
  rw [hfirst start middle value hvalue]
  exact hnext value middle last result hresult

theorem Attains.mapError {computation : Staged σ ε α} {outcome : Except ε α}
    (h : Attains computation outcome) (convert : ε → ε') :
    Attains (computation.mapError convert) (outcome.mapError convert) := by
  intro start last value hvalue
  rw [h start last value (mapError_eq_ok_iff.mp hvalue)]
  rfl

end Attaining

section Effects

variable {R : σ → σ → Prop}

/-- A computation whose effect on the state is of one kind, wherever it starts and however it ends.
-/
def Effects (R : σ → σ → Prop) (computation : Staged σ ε α) : Prop :=
  ∀ start, R start (computation start).1

theorem Effects.pure (hrefl : ∀ state, R state state) (value : α) :
    Effects R (Pure.pure value : Staged σ ε α) :=
  hrefl

theorem Effects.throw (hrefl : ∀ state, R state state) (error : ε) :
    Effects R (MonadExcept.throw error : Staged σ ε α) :=
  hrefl

theorem Effects.bind (htrans : ∀ first middle last, R first middle → R middle last → R first last)
    {first : Staged σ ε α} {next : α → Staged σ ε β} (hfirst : Effects R first)
    (hnext : ∀ value, Effects R (next value)) : Effects R (first >>= next) := by
  intro start
  have hmiddle := hfirst start
  rcases hrun : first start with ⟨middle, outcome⟩
  rw [hrun] at hmiddle
  cases outcome with
  | error error =>
      rw [bind_of_error hrun]
      exact hmiddle
  | ok value =>
      rw [bind_of_ok hrun]
      exact htrans _ _ _ hmiddle (hnext value middle)

theorem Effects.mapError {computation : Staged σ ε α} (h : Effects R computation)
    (convert : ε → ε') : Effects R (computation.mapError convert) :=
  h

/-- A computation whose effect on the state is of one kind where it fails. -/
def FailsWith (R : σ → σ → Prop) (computation : Staged σ ε α) : Prop :=
  ∀ start last error, computation start = (last, .error error) → R start last

theorem Effects.failsWith {computation : Staged σ ε α} (h : Effects R computation) :
    FailsWith R computation := by
  intro start last error hfailed
  have hlast := h start
  rw [hfailed] at hlast
  exact hlast

/-- A failure late in a chain comes after the effects of all that went well before. -/
theorem FailsWith.bind
    (htrans : ∀ first middle last, R first middle → R middle last → R first last)
    {first : Staged σ ε α} {next : α → Staged σ ε β} (hfirst : Effects R first)
    (hnext : ∀ value, FailsWith R (next value)) : FailsWith R (first >>= next) := by
  intro start last error h
  rcases bind_eq_error_iff.mp h with hfailed | ⟨middle, value, hmiddle, hfailed⟩
  · exact hfirst.failsWith start last error hfailed
  · have hdone := hfirst start
    rw [hmiddle] at hdone
    exact htrans _ _ _ hdone (hnext value middle last error hfailed)

end Effects

end Staged

end CatalogClient
