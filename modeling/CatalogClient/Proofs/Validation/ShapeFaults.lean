/-
# Where broken rules are reported

The rules on a value are checked once all parts of the value are accepted. The faults of different
parts lie below different steps. So no fault lies below one that names a broken rule.
-/

import CatalogClient.Proofs.Validation.Faults

namespace CatalogClient

variable {α β : Type}

/-- A fault lies at a place strictly inside the place of another one. -/
def Fault.LiesBelow (fault other : Fault) : Prop :=
  ∃ step rest, fault.location = other.location ++ step :: rest

namespace Validated

/-- No fault of an outcome lies below one that names a broken rule. -/
def ShapesLast (outcome : Validated α) : Prop :=
  ∀ fault ∈ outcome.faults, ∀ rule, fault.complaint = .shape rule →
    ∀ other ∈ outcome.faults, ¬other.LiesBelow fault

/-- All faults of an outcome lie in parts to which the given steps lead, and in each part none lies
below one that names a broken rule. -/
structure ShapesLastIn (outcome : Validated α) (steps : List Step) : Prop where
  last : outcome.ShapesLast
  inside : ∀ fault ∈ outcome.faults, ∃ step ∈ steps, ∃ rest, fault.location = step :: rest

theorem ShapesLast.accepted (value : α) : ShapesLast (.accepted value) :=
  List.forall_mem_nil _

theorem ShapesLast.complain (complaint : Complaint) :
    ShapesLast (complain complaint : Validated α) := by
  intro fault hfault rule _ other hother hbelow
  obtain rfl := List.mem_singleton.mp hfault
  obtain rfl := List.mem_singleton.mp hother
  obtain ⟨step, rest, hlocation⟩ := hbelow
  cases hlocation

theorem ShapesLast.map {outcome : Validated α} (h : outcome.ShapesLast) (convert : α → β) :
    (outcome.map convert).ShapesLast := by
  unfold ShapesLast
  rw [faults_map]
  exact h

theorem ShapesLast.under {outcome : Validated α} (h : outcome.ShapesLast) (step : Step) :
    (outcome.under step).ShapesLastIn [step] := by
  have hfaults : ∀ fault ∈ (outcome.under step).faults, ∃ inner ∈ outcome.faults,
      inner.under step = fault := fun fault hfault => by
    rw [faults_under] at hfault
    exact List.mem_map.mp hfault
  constructor
  · intro fault hfault rule hrule other hother hbelow
    obtain ⟨inner, hinner, rfl⟩ := hfaults fault hfault
    obtain ⟨another, hanother, rfl⟩ := hfaults other hother
    obtain ⟨next, rest, hlocation⟩ := hbelow
    exact h inner hinner rule hrule another hanother ⟨next, rest, (List.cons.inj hlocation).2⟩
  · intro fault hfault
    obtain ⟨inner, -, rfl⟩ := hfaults fault hfault
    exact ⟨step, List.mem_singleton_self step, inner.location, rfl⟩

namespace ShapesLastIn

variable {steps more : List Step}

theorem accepted (value : α) (steps : List Step) : ShapesLastIn (.accepted value) steps :=
  ⟨.accepted value, List.forall_mem_nil _⟩

theorem map {outcome : Validated α} (h : outcome.ShapesLastIn steps) (convert : α → β) :
    (outcome.map convert).ShapesLastIn steps := by
  refine ⟨h.last.map convert, ?_⟩
  rw [faults_map]
  exact h.inside

/-- Faults in different parts do not lie below each other. -/
theorem seq {first : Validated (α → β)} {second : Validated α} (hfirst : first.ShapesLastIn steps)
    (hsecond : second.ShapesLastIn more) (hdisjoint : ∀ step ∈ steps, step ∉ more) :
    (first <*> second).ShapesLastIn (steps ++ more) := by
  have hapart : ∀ fault ∈ first.faults, ∀ other ∈ second.faults,
      ¬other.LiesBelow fault ∧ ¬fault.LiesBelow other := by
    intro fault hfault other hother
    obtain ⟨step, hstep, rest, hlocation⟩ := hfirst.inside fault hfault
    obtain ⟨step', hstep', rest', hlocation'⟩ := hsecond.inside other hother
    have hdifferent : step' ≠ step := fun hsame => hdisjoint step hstep (hsame ▸ hstep')
    constructor
    · rintro ⟨next, below, hbelow⟩
      rw [hlocation, hlocation', List.cons_append] at hbelow
      exact hdifferent (List.cons.inj hbelow).1
    · rintro ⟨next, below, hbelow⟩
      rw [hlocation, hlocation', List.cons_append] at hbelow
      exact hdifferent (List.cons.inj hbelow).1.symm
  constructor
  · intro fault hfault rule hrule other hother
    rw [faults_seq, List.mem_append] at hfault hother
    rcases hfault with hfault | hfault <;> rcases hother with hother | hother
    · exact hfirst.last fault hfault rule hrule other hother
    · exact (hapart fault hfault other hother).1
    · exact (hapart other hother fault hfault).2
    · exact hsecond.last fault hfault rule hrule other hother
  · intro fault hfault
    rw [faults_seq, List.mem_append] at hfault
    rcases hfault with hfault | hfault
    · obtain ⟨step, hstep, hrest⟩ := hfirst.inside fault hfault
      exact ⟨step, List.mem_append_left _ hstep, hrest⟩
    · obtain ⟨step, hstep, hrest⟩ := hsecond.inside fault hfault
      exact ⟨step, List.mem_append_right _ hstep, hrest⟩

/-- The parts of a list of entries, to which different steps lead. -/
theorem all {γ : Type} {entries : List γ} {outcome : γ → Validated α} {step : γ → Step}
    (hnodup : (entries.map step).Nodup) (h : ∀ entry ∈ entries, (outcome entry).ShapesLast) :
    (all (entries.map fun entry => (outcome entry).under (step entry))).ShapesLastIn
      (entries.map step) := by
  induction entries with
  | nil => exact accepted [] []
  | cons entry rest ih =>
      obtain ⟨hfresh, hrest⟩ := List.nodup_cons.mp hnodup
      obtain ⟨hentry, hothers⟩ := List.forall_mem_cons.mp h
      refine ((hentry.under (step entry)).map List.cons).seq (ih hrest hothers) ?_
      exact List.forall_mem_singleton.mpr hfresh

/-- The rules on a value have a say only where no part has a fault. -/
theorem check {outcome : Validated α} (h : outcome.ShapesLastIn steps)
    (complaint? : α → Option Complaint) : (outcome.check complaint?).ShapesLast := by
  cases outcome with
  | rejected faults => exact h.last
  | accepted value =>
      simp only [Validated.check]
      cases complaint? value with
      | none => exact .accepted value
      | some complaint => exact .complain complaint

end ShapesLastIn

end Validated

open Validated

namespace Reader

variable (document : Document) (place : Place)

theorem shapesLast_text : (text document place).ShapesLast := by
  unfold text
  split
  · exact .accepted _
  · exact .complain .notString

theorem shapesLast_choice (all : List α) (label : α → String) :
    (choice all label document place).ShapesLast := by
  unfold choice
  split
  · next word _ =>
      cases all.find? fun value => decide (label value = word) with
      | none => exact .complain _
      | some value => exact .accepted value
  · exact .complain _

variable {document place} {read : Reader α}

theorem shapesLast_optional (h : (read document place).ShapesLast) :
    (read.optional document place).ShapesLast := by
  unfold optional
  split
  · exact .accepted none
  · exact h.map some

theorem shapesLast_list (h : ∀ part, (read document part).ShapesLast) (otherwise : Complaint) :
    (read.list otherwise document place).ShapesLast := by
  unfold list
  split
  · next places _ =>
      have hnodup : (places.zipIdx.map fun entry => Step.index entry.2).Nodup := by
        have hpositions : (places.zipIdx.map Prod.snd).Nodup := by
          rw [List.zipIdx_map_snd]
          exact List.nodup_range'
        have hindices : ((places.zipIdx.map Prod.snd).map Step.index).Nodup :=
          List.Pairwise.map _ (fun _ _ hother hsame => hother (Step.index.inj hsame)) hpositions
        rwa [List.map_map] at hindices
      exact (ShapesLastIn.all hnodup fun entry _ => h entry.1).last
  · exact .complain otherwise

end Reader

/-- A field with a default. -/
theorem Keyed.shapesLastIn_withDefault (members : Keyed Place) {read : Place → Validated α}
    (h : ∀ place, (read place).ShapesLast) (name : String) (default : α) :
    (members.withDefault name default read).ShapesLastIn [.key name] := by
  unfold withDefault
  split
  · exact (h _).under (.key name)
  · exact .accepted default _

end CatalogClient
