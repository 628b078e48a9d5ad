/-
# Staged computations

A staged computation works on a state and may fail. What it did to the state before a failure
stays done.
-/

namespace CatalogClient

/-- A computation over a state that may fail. -/
def Staged (σ ε α : Type) : Type :=
  σ → σ × Except ε α

namespace Staged

variable {σ ε α β : Type}

/-- Continue with the value of a computation; a failure ends the whole. -/
def andThen (first : Staged σ ε α) (next : α → Staged σ ε β) : Staged σ ε β := fun start =>
  match first start with
  | (state, .error error) => (state, .error error)
  | (state, .ok value) => next value state

instance : Monad (Staged σ ε) where
  pure value := fun start => (start, .ok value)
  bind := andThen

instance : MonadExcept ε (Staged σ ε) where
  throw error := fun start => (start, .error error)
  tryCatch computation handle := fun start =>
    match computation start with
    | (state, .error error) => handle error state
    | (state, .ok value) => (state, .ok value)

/-- The state as it is. -/
def state : Staged σ ε σ := fun start => (start, .ok start)

/-- Change the state. -/
def change (f : σ → σ) : Staged σ ε Unit := fun start => (f start, .ok ())

/-- An outcome that leaves the state alone. -/
def ofExcept (outcome : Except ε α) : Staged σ ε α := fun start => (start, outcome)

/-- The same computation with its error put into other terms. -/
def mapError {ε' : Type} (convert : ε → ε') (computation : Staged σ ε α) : Staged σ ε' α :=
  fun start => ((computation start).1, (computation start).2.mapError convert)

theorem bind_of_ok {first : Staged σ ε α} {start after : σ} {value : α}
    (h : first start = (after, .ok value)) (next : α → Staged σ ε β) :
    (first >>= next) start = next value after := by
  simp [bind, andThen, h]

theorem bind_of_error {first : Staged σ ε α} {start after : σ} {error : ε}
    (h : first start = (after, .error error)) (next : α → Staged σ ε β) :
    (first >>= next) start = (after, .error error) := by
  simp [bind, andThen, h]

end Staged

end CatalogClient
