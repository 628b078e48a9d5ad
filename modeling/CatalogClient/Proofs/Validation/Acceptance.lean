/-
# What readers accept

A reader accepts a value exactly if the value has the right form for what is read from it. What the
right form is, is said by a relation. The relations for optional values, tuples and fields are made
of those for their parts, in the same way as the readers are.
-/

import CatalogClient.Proofs.Json.Inlining
import CatalogClient.Validation.Reading
import Mathlib.Data.List.Forall2

namespace CatalogClient

variable {α β : Type}

namespace Json

/-- A value is a text. -/
def IsText (value : Json) (text : String) : Prop :=
  value = .string text

/-- A value is the word for a choice. -/
def IsWord (label : α → String) (value : Json) (choice : α) : Prop :=
  value = .string (label choice)

/-- A value stands for something of a form, or it is a null and stands for nothing. -/
inductive IsOptional (R : Json → α → Prop) : Json → Option α → Prop
  | null : IsOptional R .null none
  | given {value : Json} {found : α} (different : value ≠ .null) (form : R value found) :
      IsOptional R value (some found)

/-- A value is a list whose items are all of a form. -/
inductive IsTuple (R : Json → α → Prop) : Json → List α → Prop
  | items {items : List Json} {found : List α} (forms : List.Forall₂ R items found) :
      IsTuple R (.array items) found

/-- A field is of a form, or it is left out and has its default. -/
inductive IsField (R : Json → α → Prop) (default : α) : Option Json → α → Prop
  | absent : IsField R default none default
  | given {value : Json} {found : α} (form : R value found) : IsField R default (some value) found

section Conjunction

variable {R : Json → α → Prop} {P : α → Prop}

/-- If what is found has to have a property besides, this is said of all that is found. -/
theorem isOptional_and_iff {value : Json} {found : Option α} :
    IsOptional (fun value found => R value found ∧ P found) value found ↔
      IsOptional R value found ∧ ∀ part ∈ found, P part := by
  constructor
  · rintro (_ | ⟨different, form, hpart⟩)
    · exact ⟨.null, nofun⟩
    · exact ⟨.given different form, fun _ hmem => Option.mem_some.mp hmem ▸ hpart⟩
  · rintro ⟨_ | ⟨different, form⟩, hparts⟩
    · exact .null
    · exact .given different ⟨form, hparts _ rfl⟩

theorem isTuple_and_iff {value : Json} {found : List α} :
    IsTuple (fun value found => R value found ∧ P found) value found ↔
      IsTuple R value found ∧ ∀ part ∈ found, P part := by
  constructor
  · rintro ⟨forms⟩
    refine ⟨.items (forms.imp fun _ _ => And.left), ?_⟩
    induction forms with
    | nil => exact List.forall_mem_nil _
    | cons hfirst _ ih => exact List.forall_mem_cons.mpr ⟨hfirst.2, ih⟩
  · rintro ⟨⟨forms⟩, hparts⟩
    refine .items ?_
    induction forms with
    | nil => exact .nil
    | cons hfirst _ ih =>
        obtain ⟨hpart, hrest⟩ := List.forall_mem_cons.mp hparts
        exact .cons ⟨hfirst, hpart⟩ (ih hrest)

theorem isField_and_iff {default : α} {field : Option Json} {found : α} (hdefault : P default) :
    IsField (fun value found => R value found ∧ P found) default field found ↔
      IsField R default field found ∧ P found := by
  constructor
  · rintro (_ | ⟨form, hfound⟩)
    · exact ⟨.absent, hdefault⟩
    · exact ⟨.given form, hfound⟩
  · rintro ⟨_ | ⟨form⟩, hfound⟩
    · exact .absent
    · exact .given ⟨form, hfound⟩

end Conjunction

end Json

open Json

namespace Validated

variable {outcome : Validated α}

theorem map_eq_accepted_iff {convert : α → β} {result : β} :
    outcome.map convert = .accepted result ↔
      ∃ value, outcome = .accepted value ∧ convert value = result := by
  cases outcome <;> simp [map]

theorem under_eq_accepted_iff {step : Step} {value : α} :
    outcome.under step = .accepted value ↔ outcome = .accepted value := by
  cases outcome <;> simp [under]

theorem check_eq_accepted_iff {complaint? : α → Option Complaint} {value : α} :
    outcome.check complaint? = .accepted value ↔
      outcome = .accepted value ∧ complaint? value = none := by
  cases outcome with
  | rejected faults => simp [check]
  | accepted found =>
      simp only [check]
      cases hcomplaint : complaint? found with
      | none =>
          refine ⟨fun h => ⟨h, ?_⟩, And.left⟩
          rwa [← Validated.accepted.inj h]
      | some complaint =>
          refine ⟨nofun, fun ⟨h, hnone⟩ => ?_⟩
          rw [← Validated.accepted.inj h, hcomplaint] at hnone
          cases hnone

theorem all_eq_accepted_iff {outcomes : List (Validated α)} {values : List α} :
    all outcomes = .accepted values ↔
      List.Forall₂ (fun outcome value => outcome = .accepted value) outcomes values := by
  induction outcomes generalizing values with
  | nil => simp [all, eq_comm]
  | cons outcome rest ih =>
      rw [List.forall₂_cons_left_iff, all]
      cases outcome with
      | rejected faults => cases hrest : all rest <;> simp [map, both]
      | accepted value =>
          cases hrest : all rest with
          | rejected faults => simp [map, both, ← ih, hrest]
          | accepted found => simp [map, both, ← ih, hrest, eq_comm]

end Validated

/-- What is read at the places of a document from some depth on is what a relation says of the
values there. -/
def AcceptsFrom (root : Json) (depth : Nat) (read : Place → Validated α) (R : Json → α → Prop) :
    Prop :=
  ∀ path value, depth ≤ path.length → root.at? path = some value →
    ∀ found, read (.node path) = .accepted found ↔ R value found

variable {root : Json} {depth : Nat} {path : Path} {value : Json}

theorem AcceptsFrom.congr {read : Place → Validated α} {R R' : Json → α → Prop}
    (h : AcceptsFrom root depth read R) (hsame : ∀ value found, R value found ↔ R' value found) :
    AcceptsFrom root depth read R' :=
  fun path value hdepth hvalue found =>
    (h path value hdepth hvalue found).trans (hsame value found)

theorem Document.view_plain (h : root.at? path = some value) :
    (Document.plain root).view (.node path) = (Document.plain root).viewOf path value := by
  simp only [view, plain, h]

namespace Reader

theorem accepts_text : AcceptsFrom root depth (text (.plain root)) IsText := by
  intro path value _ hvalue found
  unfold text IsText
  rw [Document.view_plain hvalue]
  cases value <;> simp [Document.viewOf, Validated.complain]

/-- If each choice has its own word, a choice is read from its word alone. -/
theorem accepts_choice {all : List α} {label : α → String} (hall : ∀ choice, choice ∈ all)
    (hlabel : ∀ choice ∈ all, ∀ other ∈ all, label choice = label other → choice = other) :
    AcceptsFrom root depth (choice all label (.plain root)) (IsWord label) := by
  intro path value _ hvalue found
  unfold choice IsWord
  rw [Document.view_plain hvalue]
  cases value with
  | string word =>
      simp only [Document.viewOf, Json.string.injEq]
      cases hfind : all.find? fun choice => decide (label choice = word) with
      | none =>
          refine iff_of_false nofun fun hword => ?_
          exact List.find?_eq_none.mp hfind found (hall found) (decide_eq_true hword.symm)
      | some choice =>
          have hword : label choice = word := by simpa using List.find?_some hfind
          show Validated.accepted choice = .accepted found ↔ word = label found
          rw [Validated.accepted.injEq, ← hword]
          exact ⟨congrArg label, hlabel choice (hall choice) found (hall found)⟩
  | null | bool value | number value | array items | object members =>
      exact iff_of_false nofun nofun

variable {read : Reader α} {R : Json → α → Prop}

theorem accepts_optional (h : AcceptsFrom root depth (read (.plain root)) R) :
    AcceptsFrom root depth (read.optional (.plain root)) (IsOptional R) := by
  intro path value hdepth hvalue found
  have hread := h path value hdepth hvalue
  have hnull : (Document.plain root).view (.node path) = .null ↔ value = .null := by
    rw [Document.view_plain hvalue]
    cases value <;> simp [Document.viewOf]
  unfold optional
  split
  · next hview =>
      obtain rfl := hnull.mp hview
      constructor
      · rintro ⟨⟩
        exact .null
      · rintro (_ | ⟨different, -⟩)
        · rfl
        · exact absurd rfl different
  · next hview =>
      rw [Validated.map_eq_accepted_iff]
      constructor
      · rintro ⟨part, hpart, rfl⟩
        exact .given (fun hsame => hview (hnull.mpr hsame)) ((hread part).mp hpart)
      · rintro (_ | ⟨different, form⟩)
        · exact absurd (hnull.mpr rfl) hview
        · exact ⟨_, (hread _).mpr form, rfl⟩

theorem accepts_list (h : AcceptsFrom root depth (read (.plain root)) R) (otherwise : Complaint) :
    AcceptsFrom root depth (read.list otherwise (.plain root)) (IsTuple R) := by
  intro path value hdepth hvalue found
  unfold list
  rw [Document.view_plain hvalue]
  cases value with
  | array values =>
      have hitem : ∀ position (hposition : position < values.length) part,
          read (.plain root) (.node (path ++ [.index position])) = .accepted part ↔
            R values[position] part := fun position hposition =>
        h _ _ (by rw [List.length_append]; omega)
          (by rw [Json.at?_snoc hvalue]; exact List.getElem?_eq_getElem hposition)
      have hitems : IsTuple R (.array values) found ↔ List.Forall₂ R values found :=
        ⟨fun ⟨forms⟩ => forms, .items⟩
      simp only [Document.viewOf, Reader.items]
      rw [Validated.all_eq_accepted_iff, hitems, List.forall₂_iff_get, List.forall₂_iff_get]
      simp only [List.length_map, List.length_zipIdx, List.length_range, List.get_eq_getElem,
        List.getElem_map, List.getElem_zipIdx, List.getElem_range, Nat.zero_add,
        Validated.under_eq_accepted_iff]
      refine and_congr_right fun hlength => ?_
      exact forall_congr' fun position => forall_congr' fun hposition => forall_congr' fun _ =>
        hitem position hposition _
  | null | bool value | number value | string value | object members =>
      exact iff_of_false nofun nofun

end Reader

/-- The places of the members of an object. -/
def Document.membersAt (document : Document) (path : Path) (members : List (String × Json)) :
    Keyed Place :=
  members.map fun member => (member.1, document.follow (path ++ [.key member.1]))

/-- The field of an object, which is read at a place below the object. -/
theorem Keyed.withDefault_eq_accepted_iff {members : List (String × Json)}
    {read : Place → Validated α} {R : Json → α → Prop}
    (hvalue : root.at? path = some (.object members))
    (h : AcceptsFrom root (path.length + 1) read R) (name : String) (default found : α) :
    ((Document.plain root).membersAt path members).withDefault name default read =
      .accepted found ↔ IsField R default (members.lookup name) found := by
  unfold withDefault get? Document.membersAt
  rw [Json.lookup_map members fun name => (Document.plain root).follow (path ++ [Step.key name])]
  cases hlookup : members.lookup name with
  | none =>
      constructor
      · rintro ⟨⟩
        exact .absent
      · rintro ⟨⟩
        rfl
  | some value =>
      have hpart : root.at? (path ++ [.key name]) = some value := by
        rw [Json.at?_snoc hvalue]
        exact hlookup
      have hread := h _ _ (by simp) hpart found
      simp only [Option.map_some, Validated.under_eq_accepted_iff]
      constructor
      · exact fun haccepted => .given (hread.mp haccepted)
      · rintro (_ | form)
        exact hread.mpr form

end CatalogClient
