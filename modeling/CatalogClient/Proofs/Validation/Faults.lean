/-
# Faults of parts

All faults of a value are listed: those of its parts, seen from the value that holds them, and its
own. Two complaints are about values that stand in each other. Which of them an outcome lists
follows from which of them the outcomes for its parts list.
-/

import CatalogClient.Validation.Reading

namespace CatalogClient

variable {α β : Type}

/-- Whether a complaint is about values that stand in each other. -/
def Complaint.isRecursive : Complaint → Bool
  | .cycle | .deep => true
  | _ => false

/-- Such a complaint is reported as a loop, except that some releases report values that stand too
deep apart. -/
theorem Complaint.code_eq_loop_iff {complaint : Complaint} {report : DepthReport} :
    complaint.code report = "recursion_loop" ↔
      complaint = .cycle ∨ complaint = .deep ∧ report = .asLoop := by
  cases complaint <;> cases report <;> simp [Complaint.code]

namespace Validated

/-- The faults of an outcome. -/
def faults : Validated α → List Fault
  | .accepted _ => []
  | .rejected faults => faults

theorem faults_map (convert : α → β) (outcome : Validated α) :
    (outcome.map convert).faults = outcome.faults := by
  cases outcome <;> rfl

theorem faults_seq (first : Validated (α → β)) (second : Validated α) :
    (first <*> second).faults = first.faults ++ second.faults := by
  show (both first second).faults = _
  cases first <;> cases second <;> simp [both, faults]

theorem faults_under (outcome : Validated α) (step : Step) :
    (outcome.under step).faults = outcome.faults.map (Fault.under · step) := by
  cases outcome <;> rfl

/-- An outcome is rejected with some fault, and the complaints about values that stand in each other
that it lists are the given ones at the given places. -/
structure Finds (outcome : Validated α) (found : List Step → Complaint → Prop) : Prop where
  speaks : ∀ faults, outcome = .rejected faults → faults ≠ []
  lists : ∀ location complaint, complaint.isRecursive = true →
    (⟨location, complaint⟩ ∈ outcome.faults ↔ found location complaint)

namespace Finds

variable {found more : List Step → Complaint → Prop}

theorem accepted (value : α) : Finds (.accepted value) fun _ _ => False :=
  ⟨nofun, fun _ _ _ => iff_of_false List.not_mem_nil id⟩

/-- A complaint about the value itself. -/
theorem complain (complaint : Complaint) :
    Finds (complain complaint : Validated α) fun location found =>
      location = [] ∧ found = complaint := by
  constructor
  · rintro faults ⟨⟩
    exact List.cons_ne_nil _ _
  · simp [Validated.complain, faults]

theorem congr {outcome : Validated α} (h : Finds outcome found)
    (hsame : ∀ location complaint, complaint.isRecursive = true →
      (found location complaint ↔ more location complaint)) : Finds outcome more :=
  ⟨h.speaks, fun location complaint hrecursive =>
    (h.lists location complaint hrecursive).trans (hsame location complaint hrecursive)⟩

/-- A complaint about something else. -/
theorem complain_other {complaint : Complaint} (h : complaint.isRecursive = false) :
    Finds (Validated.complain complaint : Validated α) fun _ _ => False := by
  refine (complain complaint).congr fun location found hrecursive => iff_of_false ?_ id
  rintro ⟨-, rfl⟩
  exact Bool.noConfusion (h.symm.trans hrecursive)

theorem map {outcome : Validated α} (h : Finds outcome found) (convert : α → β) :
    Finds (outcome.map convert) found := by
  constructor
  · cases outcome with
    | accepted value => nofun
    | rejected faults =>
        rintro _ ⟨⟩
        exact h.speaks faults rfl
  · rw [faults_map]
    exact h.lists

theorem seq {first : Validated (α → β)} {second : Validated α} (hfirst : Finds first found)
    (hsecond : Finds second more) : Finds (first <*> second) fun location complaint =>
      found location complaint ∨ more location complaint := by
  constructor
  · show ∀ faults, both first second = _ → _
    cases first with
    | accepted convert =>
        cases second with
        | accepted value => nofun
        | rejected faults =>
            rintro _ ⟨⟩
            exact hsecond.speaks faults rfl
    | rejected faults =>
        have hspeaks := hfirst.speaks faults rfl
        cases second with
        | accepted value =>
            rintro _ ⟨⟩
            exact hspeaks
        | rejected later =>
            rintro _ ⟨⟩
            exact List.append_ne_nil_of_left_ne_nil hspeaks later
  · intro location complaint hrecursive
    rw [faults_seq, List.mem_append, hfirst.lists _ _ hrecursive, hsecond.lists _ _ hrecursive]

theorem under {outcome : Validated α} (h : Finds outcome found) (step : Step) :
    Finds (outcome.under step) fun location complaint =>
      ∃ rest, location = step :: rest ∧ found rest complaint := by
  constructor
  · cases outcome with
    | accepted value => nofun
    | rejected faults =>
        rintro _ ⟨⟩
        simpa using h.speaks faults rfl
  · intro location complaint hrecursive
    rw [faults_under, List.mem_map]
    constructor
    · rintro ⟨⟨rest, inner⟩, hmem, hfault⟩
      obtain ⟨rfl, rfl⟩ := Fault.mk.inj hfault
      exact ⟨rest, rfl, (h.lists _ _ hrecursive).mp hmem⟩
    · rintro ⟨rest, rfl, hfound⟩
      exact ⟨⟨rest, complaint⟩, (h.lists _ _ hrecursive).mpr hfound, rfl⟩

/-- A further check that complains about something else. -/
theorem check {outcome : Validated α} (h : Finds outcome found) {complaint? : α → Option Complaint}
    (hother : ∀ value complaint, complaint? value = some complaint →
      complaint.isRecursive = false) :
    Finds (outcome.check complaint?) found := by
  cases outcome with
  | rejected faults => exact h
  | accepted value =>
      simp only [Validated.check]
      cases hcomplaint : complaint? value with
      | none => exact h
      | some complaint =>
          refine (complain_other (hother value complaint hcomplaint)).congr
            fun location inner hrec => ?_
          exact iff_of_false id ((not_congr (h.lists location inner hrec)).mp List.not_mem_nil)

/-- The outcomes for the entries of a list. -/
theorem all {γ : Type} {entries : List γ} {outcome : γ → Validated α}
    {found : γ → List Step → Complaint → Prop}
    (h : ∀ entry ∈ entries, Finds (outcome entry) (found entry)) :
    Finds (all (entries.map outcome)) fun location complaint =>
      ∃ entry ∈ entries, found entry location complaint := by
  induction entries with
  | nil => exact (accepted []).congr fun _ _ _ => iff_of_false id (by simp)
  | cons entry rest ih =>
      obtain ⟨hentry, hrest⟩ := List.forall_mem_cons.mp h
      refine ((hentry.map List.cons).seq (ih hrest)).congr fun location complaint _ => ?_
      simp

end Finds

end Validated

end CatalogClient
