/-
# Two computations side by side

Two outcomes agree if both are values that go together or both are faults that go together. Two
staged computations agree if, from states that go together, they lead to states that go together
with outcomes that agree. What is put together from parts that agree, part by part, agrees as well,
so two runs are compared without a look at where each of them goes.
-/

import CatalogClient.Staged

namespace CatalogClient

section Outcomes

variable {ε ε' α β γ : Type} {E : ε → ε → Prop} {E' : ε' → ε' → Prop} {V : α → α → Prop}
  {W : β → β → Prop}

/-- Two outcomes that are values that go together, or faults that do. -/
inductive OutcomesAgree (E : ε → ε → Prop) (V : α → α → Prop) : Except ε α → Except ε α → Prop
  | ok {value other : α} (h : V value other) : OutcomesAgree E V (.ok value) (.ok other)
  | error {fault other : ε} (h : E fault other) : OutcomesAgree E V (.error fault) (.error other)

namespace OutcomesAgree

theorem refl (hE : ∀ fault, E fault fault) (hV : ∀ value, V value value) (outcome : Except ε α) :
    OutcomesAgree E V outcome outcome := by
  cases outcome with
  | error fault => exact .error (hE fault)
  | ok value => exact .ok (hV value)

/-- Either both are faults, or both are values. -/
theorem error_or_ok {outcome other : Except ε α} (h : OutcomesAgree E V outcome other) :
    (∃ fault fault', outcome = .error fault ∧ other = .error fault' ∧ E fault fault') ∨
      ∃ value value', outcome = .ok value ∧ other = .ok value' ∧ V value value' := by
  cases h with
  | ok hvalue => exact Or.inr ⟨_, _, rfl, rfl, hvalue⟩
  | error hfault => exact Or.inl ⟨_, _, rfl, rfl, hfault⟩

theorem bind {outcome other : Except ε α} {next others : α → Except ε β}
    (h : OutcomesAgree E V outcome other)
    (hnext : ∀ value another, V value another → OutcomesAgree E W (next value) (others another)) :
    OutcomesAgree E W (outcome >>= next) (other >>= others) := by
  cases h with
  | ok hvalue => exact hnext _ _ hvalue
  | error hfault => exact .error hfault

theorem map {outcome other : Except ε α} {convert convert' : α → β}
    (h : OutcomesAgree E V outcome other)
    (hconvert : ∀ value another, V value another → W (convert value) (convert' another)) :
    OutcomesAgree E W (outcome.map convert) (other.map convert') := by
  cases h with
  | ok hvalue => exact .ok (hconvert _ _ hvalue)
  | error hfault => exact .error hfault

theorem mapError {outcome other : Except ε α} {convert : ε → ε'}
    (h : OutcomesAgree E V outcome other)
    (hconvert : ∀ fault another, E fault another → E' (convert fault) (convert another)) :
    OutcomesAgree E' V (outcome.mapError convert) (other.mapError convert) := by
  cases h with
  | ok hvalue => exact .ok hvalue
  | error hfault => exact .error (hconvert _ _ hfault)

/-- Two walks along one list agree if their steps do. -/
theorem foldlM {next others : α → γ → Except ε α}
    (hnext : ∀ value another entry, V value another →
      OutcomesAgree E V (next value entry) (others another entry))
    (entries : List γ) {start other : α} (hstart : V start other) :
    OutcomesAgree E V (entries.foldlM next start) (entries.foldlM others other) := by
  induction entries generalizing start other with
  | nil => exact .ok hstart
  | cons entry rest ih =>
      rw [List.foldlM_cons, List.foldlM_cons]
      exact (hnext start other entry hstart).bind fun _ _ => ih

end OutcomesAgree

/-- Two faults that are put in the same words, or the same fault without any. -/
def SameWords (words? : ε → Option String) (fault other : ε) : Prop :=
  words? fault = words? other ∧ (words? fault = none → fault = other)

theorem SameWords.refl (words? : ε → Option String) (fault : ε) : SameWords words? fault fault :=
  ⟨rfl, fun _ => rfl⟩

end Outcomes

namespace Staged

variable {σ ε ε' α β : Type} {R : σ → σ → Prop} {E : ε → ε → Prop} {E' : ε' → ε' → Prop}
  {V : α → α → Prop} {W : β → β → Prop}

/-- Two computations that lead from states that go together to such states and to outcomes that
agree. -/
def Agree (R : σ → σ → Prop) (E : ε → ε → Prop) (V : α → α → Prop)
    (first second : Staged σ ε α) : Prop :=
  ∀ start other, R start other →
    R (first start).1 (second other).1 ∧ OutcomesAgree E V (first start).2 (second other).2

namespace Agree

theorem pure {value other : α} (h : V value other) :
    Agree R E V (Pure.pure value : Staged σ ε α) (Pure.pure other) :=
  fun _ _ hstart => ⟨hstart, .ok h⟩

theorem throw {fault other : ε} (h : E fault other) :
    Agree R E V (MonadExcept.throw fault : Staged σ ε α) (MonadExcept.throw other) :=
  fun _ _ hstart => ⟨hstart, .error h⟩

theorem ofExcept {outcome other : Except ε α} (h : OutcomesAgree E V outcome other) :
    Agree R E V (Staged.ofExcept outcome : Staged σ ε α) (Staged.ofExcept other) :=
  fun _ _ hstart => ⟨hstart, h⟩

theorem change {f g : σ → σ} (h : ∀ start other, R start other → R (f start) (g other)) :
    Agree R E Eq (Staged.change f : Staged σ ε Unit) (Staged.change g) :=
  fun start other hstart => ⟨h start other hstart, .ok rfl⟩

theorem bind {first second : Staged σ ε α} {next others : α → Staged σ ε β}
    (h : Agree R E V first second)
    (hnext : ∀ value other, V value other → Agree R E W (next value) (others other)) :
    Agree R E W (first >>= next) (second >>= others) := by
  intro start other hstart
  obtain ⟨hmiddle, houtcome⟩ := h start other hstart
  rcases hfirst : first start with ⟨middle, outcome⟩
  rcases hsecond : second other with ⟨middle', outcome'⟩
  rw [hfirst, hsecond] at hmiddle houtcome
  cases houtcome with
  | ok hvalue =>
      rw [bind_of_ok hfirst, bind_of_ok hsecond]
      exact hnext _ _ hvalue _ _ hmiddle
  | error hfault =>
      rw [bind_of_error hfirst, bind_of_error hsecond]
      exact ⟨hmiddle, .error hfault⟩

/-- What follows on a stage without a value agrees on its own. -/
theorem after {first second : Staged σ ε Unit} {next others : Unit → Staged σ ε β}
    (h : Agree R E Eq first second) (hnext : Agree R E W (next ()) (others ())) :
    Agree R E W (first >>= next) (second >>= others) :=
  h.bind fun _ _ _ => hnext

/-- What follows on the same value in both agrees for every value. -/
theorem bindSame {first second : Staged σ ε α} {next others : α → Staged σ ε β}
    (h : Agree R E Eq first second) (hnext : ∀ value, Agree R E W (next value) (others value)) :
    Agree R E W (first >>= next) (second >>= others) := by
  apply h.bind
  rintro value _ rfl
  exact hnext value

end Agree

end Staged

end CatalogClient
