/-
# What readers yield

A reader yields values with a property if whatever it accepts has the property. Readers are put
together from readers of parts, and so are the properties of what they yield.
-/

import CatalogClient.Validation.Reading

namespace CatalogClient

variable {α β : Type}

namespace Validated

/-- Whatever is accepted has a property. -/
def Yields (P : α → Prop) (outcome : Validated α) : Prop :=
  ∀ value, outcome = .accepted value → P value

theorem Yields.trivial (outcome : Validated α) : Yields (fun _ => True) outcome :=
  fun _ _ => True.intro

theorem Yields.accepted {P : α → Prop} {value : α} (h : P value) : Yields P (.accepted value) := by
  rintro _ ⟨⟩
  exact h

theorem Yields.complain {P : α → Prop} (complaint : Complaint) : Yields P (complain complaint) :=
  nofun

theorem Yields.map {P : α → Prop} {Q : β → Prop} {outcome : Validated α} {convert : α → β}
    (h : Yields P outcome) (hconvert : ∀ value, P value → Q (convert value)) :
    Yields Q (outcome.map convert) := by
  cases outcome with
  | rejected faults => nofun
  | accepted value => exact .accepted (hconvert value (h value rfl))

/-- What a part yields is put to use by the part before it. -/
theorem Yields.seq {P : α → Prop} {Q : β → Prop} {first : Validated (α → β)}
    {second : Validated α}
    (hfirst : Yields (fun convert => ∀ value, P value → Q (convert value)) first)
    (hsecond : Yields P second) : Yields Q (first <*> second) := by
  show Yields Q (both first second)
  cases first with
  | rejected faults => cases second <;> nofun
  | accepted convert =>
      cases second with
      | rejected faults => nofun
      | accepted value => exact .accepted (hfirst convert rfl value (hsecond value rfl))

theorem Yields.under {P : α → Prop} {outcome : Validated α} (h : Yields P outcome) (step : Step) :
    Yields P (outcome.under step) := by
  cases outcome with
  | rejected faults => nofun
  | accepted value => exact h

/-- What passes a check has what was accepted before, and nothing was complained about. -/
theorem Yields.check {P : α → Prop} {outcome : Validated α} (h : Yields P outcome)
    (complaint? : α → Option Complaint) :
    Yields (fun value => P value ∧ complaint? value = none) (outcome.check complaint?) := by
  cases outcome with
  | rejected faults => nofun
  | accepted value =>
      simp only [Validated.check]
      cases hcomplaint : complaint? value with
      | some complaint => exact .complain complaint
      | none => exact .accepted ⟨h value rfl, hcomplaint⟩

theorem Yields.all {P : α → Prop} {outcomes : List (Validated α)}
    (h : ∀ outcome ∈ outcomes, Yields P outcome) :
    Yields (fun values => ∀ value ∈ values, P value) (all outcomes) := by
  induction outcomes with
  | nil => exact .accepted (by simp)
  | cons outcome rest ih =>
      obtain ⟨houtcome, hrest⟩ := List.forall_mem_cons.mp h
      refine .seq (.map houtcome fun value hvalue values hvalues => ?_) (ih hrest)
      exact List.forall_mem_cons.mpr ⟨hvalue, hvalues⟩

end Validated

namespace Reader

variable {P : α → Prop} {read : Reader α} {document : Document}

theorem yields_optional (h : ∀ place, (read document place).Yields P) (place : Place) :
    (read.optional document place).Yields fun value => ∀ inner ∈ value, P inner := by
  unfold optional
  split
  · exact .accepted (by simp)
  · exact .map (h place) fun value hvalue => by simpa using hvalue

theorem yields_list (h : ∀ place, (read document place).Yields P) (otherwise : Complaint)
    (place : Place) :
    (read.list otherwise document place).Yields fun values => ∀ value ∈ values, P value := by
  unfold list
  split
  · apply Validated.Yields.all
    intro outcome houtcome
    obtain ⟨entry, -, rfl⟩ := List.mem_map.mp houtcome
    exact (h entry.1).under _
  · exact .complain otherwise

theorem yields_dictionary (h : ∀ place, (read document place).Yields P) (place : Place) :
    (read.dictionary document place).Yields fun entries => ∀ entry ∈ entries, P entry.2 := by
  unfold dictionary
  split
  · apply Validated.Yields.all
    intro outcome houtcome
    obtain ⟨member, -, rfl⟩ := List.mem_map.mp houtcome
    refine Validated.Yields.under ?_ _
    exact .map (h member.2) fun value hvalue => hvalue
  · exact .complain .notDictionary

theorem yields_model {name : String} {fields : Document → Keyed Place → Validated α}
    (h : ∀ members, (fields document members).Yields P) (place : Place) :
    (Reader.model name fields document place).Yields P := by
  unfold model
  split
  · exact h _
  · exact .complain (.notModel name)

end Reader

namespace Keyed

variable {P : α → Prop} {read : Place → Validated α}

theorem yields_required (members : Keyed Place) (name : String)
    (h : ∀ place, (read place).Yields P) : (members.required name read).Yields P := by
  unfold required
  refine .under ?_ _
  split
  · exact h _
  · exact .complain .missing

theorem yields_withDefault (members : Keyed Place) (name : String) {default : α}
    (hdefault : P default) (h : ∀ place, (read place).Yields P) :
    (members.withDefault name default read).Yields P := by
  unfold withDefault
  split
  · exact (h _).under _
  · exact .accepted hdefault

end Keyed

end CatalogClient
