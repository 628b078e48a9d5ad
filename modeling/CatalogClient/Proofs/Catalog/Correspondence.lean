/-
# What is not looked at does not matter

Two documents are read as the same catalog, or refused for the same faults at the same places, if
the parts of them that are looked at correspond to each other one to one. Whatever else they hold,
and whatever circles it leads in, has no part in the outcome.
-/

import CatalogClient.Proofs.Catalog.Walks
import Mathlib.Data.List.Forall2

namespace CatalogClient

open Document

variable {α : Type}

/-- Two values are alike in a role if they are of one form and the parts of them that are looked at
correspond. -/
def Role.Alike (R : Role → Place → Place → Prop) (role : Role) : View → View → Prop
  | .null, .null => True
  | .bool value, .bool value' => value = value'
  | .number value, .number value' => value = value'
  | .string value, .string value' => value = value'
  | .array items, .array items' =>
      match role.look with
      | .items inner => List.Forall₂ (R inner) items items'
      | .alone | .values _ | .members _ => True
  | .object members, .object members' =>
      match role.look with
      | .values inner =>
          List.Forall₂ (fun member member' => member.1 = member'.1 ∧ R inner member.2 member'.2)
            members members'
      | .members roles => ∀ entry ∈ roles,
          Option.Rel (R entry.2) (Keyed.get? members entry.1) (Keyed.get? members' entry.1)
      | .alone | .items _ => True
  | _, _ => False

/-- A correspondence between the places of two documents, for each role. What is seen at places that
correspond is alike, and for type references it is one to one. -/
structure Document.Corresponds (document document' : Document) (R : Role → Place → Place → Prop) :
    Prop where
  alike : ∀ role place place', R role place place' →
    role.Alike R (document.view place) (document'.view place')
  single : ∀ path path' other other', R .type (.node path) (.node path') →
    R .type (.node other) (.node other') → (path = other ↔ path' = other')

variable {document document' : Document} {R : Role → Place → Place → Prop} {role inner : Role}

/-- Two ways to read agree at places that correspond in a role. -/
def ReadsSame (R : Role → Place → Place → Prop) (role : Role) (read read' : Place → Validated α) :
    Prop :=
  ∀ place place', R role place place' → read place = read' place'

/-- Two objects have members that correspond under the keys that have roles. -/
def MembersAlike (R : Role → Place → Place → Prop) (roles : List (String × Role))
    (members members' : Keyed Place) : Prop :=
  ∀ entry ∈ roles, Option.Rel (R entry.2) (members.get? entry.1) (members'.get? entry.1)

/-- Values whose parts are not looked at are the same, or both are lists, or both objects. -/
theorem Role.eq_or_of_alike {view view' : View} (h : Role.scalar.Alike R view view') :
    view = view' ∨ (∃ items items', view = .array items ∧ view' = .array items') ∨
      ∃ members members', view = .object members ∧ view' = .object members' := by
  cases view <;> cases view'
  case array.array => exact .inr (.inl ⟨_, _, rfl, rfl⟩)
  case object.object => exact .inr (.inr ⟨_, _, rfl, rfl⟩)
  case null.null => exact .inl rfl
  case bool.bool => exact .inl (congrArg View.bool h)
  case number.number => exact .inl (congrArg View.number h)
  case string.string => exact .inl (congrArg View.string h)
  all_goals cases h

theorem Role.null_iff_of_alike {view view' : View} (h : role.Alike R view view') :
    view = .null ↔ view' = .null := by
  cases view <;> cases view' <;> first | exact Iff.rfl | exact h.elim | simp

namespace Document.Corresponds

variable (h : document.Corresponds document' R)
include h

theorem readsSame_text : ReadsSame R .scalar (Reader.text document) (Reader.text document') := by
  intro place place' hplace
  unfold Reader.text
  rcases Role.eq_or_of_alike (h.alike _ _ _ hplace) with hsame | ⟨_, _, hleft, hright⟩ |
    ⟨_, _, hleft, hright⟩
  · rw [hsame]
  all_goals rw [hleft, hright]

theorem readsSame_choice (all : List α) (label : α → String) :
    ReadsSame R .scalar (Reader.choice all label document)
      (Reader.choice all label document') := by
  intro place place' hplace
  unfold Reader.choice
  rcases Role.eq_or_of_alike (h.alike _ _ _ hplace) with hsame | ⟨_, _, hleft, hright⟩ |
    ⟨_, _, hleft, hright⟩
  · rw [hsame]
  all_goals rw [hleft, hright]

theorem readsSame_truth : ReadsSame R .scalar (Reader.truth document) (Reader.truth document') := by
  intro place place' hplace
  unfold Reader.truth
  rcases Role.eq_or_of_alike (h.alike _ _ _ hplace) with hsame | ⟨_, _, hleft, hright⟩ |
    ⟨_, _, hleft, hright⟩
  · rw [hsame]
  all_goals rw [hleft, hright]

variable {read read' : Reader α}

theorem readsSame_optional (hread : ReadsSame R role (read document) (read' document')) :
    ReadsSame R role (read.optional document) (read'.optional document') := by
  intro place place' hplace
  have hnull := Role.null_iff_of_alike (h.alike _ _ _ hplace)
  have hvalue := hread place place' hplace
  unfold Reader.optional
  split
  · next hview => rw [hnull.mp hview]
  · next hview =>
      split
      · next hview' => exact absurd (hnull.mpr hview') hview
      · rw [hvalue]

theorem readsSame_list (hread : ReadsSame R inner (read document) (read' document'))
    (hlook : role.look = .items inner) (otherwise : Complaint) :
    ReadsSame R role (read.list otherwise document) (read'.list otherwise document') := by
  intro place place' hplace
  have halike := h.alike _ _ _ hplace
  unfold Reader.list
  generalize document.view place = view, document'.view place' = view' at halike ⊢
  cases view <;> cases view'
  case array.array items items' =>
    simp only [Role.Alike, hlook] at halike
    simp only [Reader.items]
    congr 1
    apply List.ext_getElem (by simpa using halike.length_eq)
    intro position hleft hright
    have hitem := halike.get (by simpa using hleft) (by simpa using hright)
    have hsame := hread _ _ hitem
    rw [List.get_eq_getElem, List.get_eq_getElem] at hsame
    simp [hsame]
  all_goals first | rfl | exact halike.elim

theorem readsSame_dictionary (hread : ReadsSame R inner (read document) (read' document'))
    (hlook : role.look = .values inner) :
    ReadsSame R role (read.dictionary document) (read'.dictionary document') := by
  intro place place' hplace
  have halike := h.alike _ _ _ hplace
  unfold Reader.dictionary
  generalize document.view place = view, document'.view place' = view' at halike ⊢
  cases view <;> cases view'
  case object.object members members' =>
    simp only [Role.Alike, hlook] at halike
    simp only
    congr 1
    induction halike with
    | nil => rfl
    | cons hmember _ ih =>
        obtain ⟨hname, hvalue⟩ := hmember
        rw [List.map_cons, List.map_cons, ih, hname, hread _ _ hvalue]
  all_goals first | rfl | exact halike.elim

theorem readsSame_model {name : String} {fields fields' : Document → Keyed Place → Validated α}
    {roles : List (String × Role)} (hlook : role.look = .members roles)
    (hread : ∀ members members', MembersAlike R roles members members' →
      fields document members = fields' document' members') :
    ReadsSame R role (Reader.model name fields document) (Reader.model name fields' document') := by
  intro place place' hplace
  have halike := h.alike _ _ _ hplace
  unfold Reader.model
  generalize document.view place = view, document'.view place' = view' at halike ⊢
  cases view <;> cases view'
  case object.object members members' =>
    simp only [Role.Alike, hlook] at halike
    exact hread members members' halike
  all_goals first | rfl | exact halike.elim

end Document.Corresponds

namespace MembersAlike

variable {roles : List (String × Role)} {members members' : Keyed Place}
  (h : MembersAlike R roles members members')
include h

theorem required {name : String} (hrole : (name, role) ∈ roles) {read read' : Place → Validated α}
    (hread : ReadsSame R role read read') :
    members.required name read = members'.required name read' := by
  unfold Keyed.required
  have hname := h _ hrole
  generalize members.get? name = place, members'.get? name = place' at hname ⊢
  cases hname with
  | none => rfl
  | some hplace => simp only [hread _ _ hplace]

theorem withDefault {name : String} (hrole : (name, role) ∈ roles) (default : α)
    {read read' : Place → Validated α} (hread : ReadsSame R role read read') :
    members.withDefault name default read = members'.withDefault name default read' := by
  unfold Keyed.withDefault
  have hname := h _ hrole
  generalize members.get? name = place, members'.get? name = place' at hname ⊢
  cases hname with
  | none => rfl
  | some hplace => simp only [hread _ _ hplace]

end MembersAlike

open Document.Corresponds

namespace TypeRef

/-- The members of type references that correspond are read in the same way if the references in
them are. -/
theorem ofFields_eq {inner inner' : Place → Validated TypeRef}
    (h : document.Corresponds document' R) (hinner : ReadsSame R .type inner inner')
    {roles : List (String × Role)} (hlook : Role.type.look = .members roles)
    {fields fields' : Keyed Place} (hfields : MembersAlike R roles fields fields') :
    ofFields document inner fields = ofFields document' inner' fields' := by
  obtain rfl := Look.members.inj hlook
  have hoption : ReadsSame R .type (Reader.optional (fun _ => inner) document)
      (Reader.optional (fun _ => inner') document') := h.readsSame_optional hinner
  have hlist : ReadsSame R .types (Reader.list (fun _ => inner) .notTuple document)
      (Reader.list (fun _ => inner') .notTuple document') := h.readsSame_list hinner rfl .notTuple
  have htext := h.readsSame_optional h.readsSame_text
  unfold ofFields
  rw [hfields.withDefault (by simp) _ (h.readsSame_choice TypeKind.all TypeKind.label),
    hfields.withDefault (by simp : ("name", Role.scalar) ∈ _) _ htext,
    hfields.withDefault (by simp : ("namespace", Role.scalar) ∈ _) _ htext,
    hfields.withDefault (by simp : ("component", Role.type) ∈ _) _ hoption,
    hfields.withDefault (by simp) _
      (h.readsSame_optional (h.readsSame_choice RawKind.all RawKind.label)),
    hfields.withDefault (by simp : ("raw", Role.type) ∈ _) _ hoption,
    hfields.withDefault (by simp : ("arguments", Role.types) ∈ _) _ hlist,
    hfields.withDefault (by simp : ("bounds", Role.types) ∈ _) _ hlist]

/-- Inside type references that correspond, those that correspond are read in the same way: by
induction on the room that is left. -/
theorem readsSame_readUnder (h : document.Corresponds document' R) (room : Nat)
    {above above' : List Path}
    (habove : List.Forall₂ (fun path path' => R .type (.node path) (.node path')) above above') :
    ReadsSame R .type (readUnder room document above) (readUnder room document' above') := by
  induction hleft : room - above.length using Nat.strongRecOn generalizing above above' with
  | ind left ih =>
      intro place place' hplace
      have halike := h.alike _ _ _ hplace
      cases hview : document.view place <;> cases hview' : document'.view place' <;>
        rw [hview, hview'] at halike
      case object.object fields fields' =>
        obtain ⟨path, rfl, hread⟩ := readUnder_of_object room above hview
        obtain ⟨path', rfl, hread'⟩ := readUnder_of_object room above' hview'
        have hmet : path ∈ above ↔ path' ∈ above' := by
          clear ih hleft hread hread'
          induction habove with
          | nil => simp
          | cons hfirst _ ih => simp only [List.mem_cons, ih, h.single _ _ _ _ hplace hfirst]
        rw [hread, hread']
        simp only [hmet, habove.length_eq]
        split
        · rfl
        · split
          · rfl
          · next hfree =>
              refine ofFields_eq h (ih _ ?_ (.cons hplace habove) rfl) rfl halike
              rw [List.length_cons, habove.length_eq]
              rw [habove.length_eq] at hleft
              omega
      all_goals first
        | exact halike.elim
        | rw [readUnder_of_not_object (by rw [hview]; nofun),
            readUnder_of_not_object (by rw [hview']; nofun)]

theorem readsSame_read (h : document.Corresponds document' R) :
    ReadsSame R .type (read document) (read document') :=
  readsSame_readUnder h roomInside .nil

end TypeRef

theorem Field.readsSame_read (h : document.Corresponds document' R) :
    ReadsSame R .field (Field.read document) (Field.read document') := by
  refine h.readsSame_model rfl fun members members' hmembers => ?_
  rw [hmembers.required (by simp) h.readsSame_text,
    hmembers.required (by simp) (TypeRef.readsSame_read h),
    hmembers.withDefault (by simp) _ h.readsSame_truth]

theorem Declaration.readsSame_read (h : document.Corresponds document' R) :
    ReadsSame R .declaration (Declaration.read document) (Declaration.read document') := by
  have htexts : ReadsSame R .texts (Reader.text.list .notList document)
      (Reader.text.list .notList document') := h.readsSame_list h.readsSame_text rfl .notList
  have hfields : ReadsSame R .fields (Field.read.list .notList document)
      (Field.read.list .notList document') :=
    h.readsSame_list (Field.readsSame_read h) rfl .notList
  refine h.readsSame_model rfl fun members members' hmembers => ?_
  rw [hmembers.required (by simp) h.readsSame_text,
    hmembers.withDefault (by simp) _ (h.readsSame_optional h.readsSame_text),
    hmembers.withDefault (by simp) _ (h.readsSame_choice TypeKind.all TypeKind.label),
    hmembers.withDefault (by simp : ("type_parameters", Role.texts) ∈ _) _ htexts,
    hmembers.withDefault (by simp) _ hfields,
    hmembers.withDefault (by simp : ("constants", Role.texts) ∈ _) _ htexts]

theorem Parameter.readsSame_read (h : document.Corresponds document' R) :
    ReadsSame R .parameter (Parameter.read document) (Parameter.read document') := by
  have htext := h.readsSame_optional h.readsSame_text
  refine h.readsSame_model rfl fun members members' hmembers => ?_
  rw [hmembers.required (by simp) h.readsSame_text,
    hmembers.withDefault (by simp) _ (TypeRef.readsSame_read h),
    hmembers.withDefault (by simp) _ (h.readsSame_choice ParameterSource.all ParameterSource.label),
    hmembers.withDefault (by simp : ("binding_value", Role.scalar) ∈ _) _ htext,
    hmembers.withDefault (by simp : ("binding_name", Role.scalar) ∈ _) _ htext]

theorem Operation.readsSame_read (h : document.Corresponds document' R) :
    ReadsSame R .operation (Operation.read document) (Operation.read document') := by
  have hparameters : ReadsSame R .parameters (Parameter.read.list .notList document)
      (Parameter.read.list .notList document') :=
    h.readsSame_list (Parameter.readsSame_read h) rfl .notList
  refine h.readsSame_model rfl fun members members' hmembers => ?_
  rw [hmembers.withDefault (by simp) _ (h.readsSame_optional h.readsSame_text),
    hmembers.required (by simp : ("url", Role.scalar) ∈ _) h.readsSame_text,
    hmembers.required (by simp : ("function_name", Role.scalar) ∈ _) h.readsSame_text,
    hmembers.withDefault (by simp) _ hparameters,
    hmembers.withDefault (by simp) _ (TypeRef.readsSame_read h)]

/-- Catalogs that correspond in all that is looked at are read in the same way. -/
theorem Catalog.readsSame_read (h : document.Corresponds document' R) :
    ReadsSame R .catalog (Catalog.read document) (Catalog.read document') := by
  have hoperations : ReadsSame R .operations (Operation.read.dictionary document)
      (Operation.read.dictionary document') :=
    h.readsSame_dictionary (Operation.readsSame_read h) rfl
  have hdeclarations : ReadsSame R .declarations (Declaration.read.dictionary document)
      (Declaration.read.dictionary document') :=
    h.readsSame_dictionary (Declaration.readsSame_read h) rfl
  refine h.readsSame_model rfl fun members members' hmembers => ?_
  rw [hmembers.withDefault (by simp) _ hoperations, hmembers.withDefault (by simp) _ hdeclarations]

end CatalogClient
