/-
# Log records

What a computation reports while it works. The records of a computation that fails are kept, so a
logged computation is a list of records together with a value or an error.
-/

namespace CatalogClient

/-- The severity of a record. -/
inductive Severity
  | debug
  | info
  | warning
  | error
  deriving DecidableEq, Repr

/-- The rank of a severity among the others. -/
def Severity.rank : Severity → Nat
  | .debug => 0
  | .info => 1
  | .warning => 2
  | .error => 3

/-- The name of a severity. -/
def Severity.label : Severity → String
  | .debug => "DEBUG"
  | .info => "INFO"
  | .warning => "WARNING"
  | .error => "ERROR"

/-- One record of the log. -/
structure LogRecord where
  severity : Severity
  text : String
  deriving DecidableEq, Repr

/-- A list of records, the oldest first. -/
abbrev Log := List LogRecord

/-- The records of at least the given severity. -/
def Log.atLeast (least : Severity) (log : Log) : Log :=
  log.filter fun record => decide (least.rank ≤ record.severity.rank)

/-- The outcome of a computation together with the records it left, which survive a failure. -/
structure Logged (ε α : Type) where
  log : Log
  outcome : Except ε α

namespace Logged

variable {ε α β : Type}

/-- A value without a record. -/
def done (value : α) : Logged ε α :=
  ⟨[], .ok value⟩

/-- A failure without a record. -/
def fail (error : ε) : Logged ε α :=
  ⟨[], .error error⟩

/-- A single record. -/
def note (severity : Severity) (text : String) : Logged ε Unit :=
  ⟨[⟨severity, text⟩], .ok ()⟩

/-- Continue with the value of a computation; a failure ends the whole. -/
def andThen (first : Logged ε α) (next : α → Logged ε β) : Logged ε β :=
  match first.outcome with
  | .error error => ⟨first.log, .error error⟩
  | .ok value => ⟨first.log ++ (next value).log, (next value).outcome⟩

instance : Monad (Logged ε) where
  pure := done
  bind := andThen

/-- An outcome that was reached without a record. -/
def ofExcept (outcome : Except ε α) : Logged ε α :=
  ⟨[], outcome⟩

/-- The same computation with its error put into other terms. -/
def mapError {ε' : Type} (convert : ε → ε') (computation : Logged ε α) : Logged ε' α :=
  ⟨computation.log, computation.outcome.mapError convert⟩

@[simp] theorem pure_outcome (value : α) : (pure value : Logged ε α).outcome = .ok value := rfl

theorem bind_of_ok {first : Logged ε α} {value : α} (h : first.outcome = .ok value)
    (next : α → Logged ε β) :
    first >>= next = ⟨first.log ++ (next value).log, (next value).outcome⟩ := by
  simp [bind, andThen, h]

theorem bind_of_error {first : Logged ε α} {error : ε} (h : first.outcome = .error error)
    (next : α → Logged ε β) : first >>= next = ⟨first.log, .error error⟩ := by
  simp [bind, andThen, h]

/-- The outcome of a chain is the chain of the outcomes. -/
theorem bind_outcome (first : Logged ε α) (next : α → Logged ε β) :
    (first >>= next).outcome = first.outcome >>= fun value => (next value).outcome := by
  cases h : first.outcome with
  | error error => rw [bind_of_error h]; rfl
  | ok value => rw [bind_of_ok h]; rfl

/-- A chain of computations ends well exactly if each of its parts does. -/
theorem bind_outcome_eq_ok_iff (first : Logged ε α) (next : α → Logged ε β) (result : β) :
    (first >>= next).outcome = .ok result ↔
      ∃ value, first.outcome = .ok value ∧ (next value).outcome = .ok result := by
  cases h : first.outcome with
  | error error => simp [bind_of_error h]
  | ok value => simp [bind_of_ok h]

end Logged

end CatalogClient
