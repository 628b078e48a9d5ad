/-
# References among the parts

The references of a value are those of its parts, and its own if it is one. So whatever reference
stands at some path of a value is listed among its references, and a value that has none in the list
has none at any path. The same holds of the references that stand where the text of another one is
expected.
-/

import CatalogClient.Proofs.Json.Meaning
import CatalogClient.Proofs.Json.Unfolding

namespace CatalogClient

namespace Json

/-- A step leads to one of the parts. -/
theorem mem_parts_of_child? {value part : Json} {step : Step}
    (h : value.child? step = some part) : (step, part) ∈ value.parts := by
  cases value with
  | array items =>
      cases step with
      | index position => exact mem_parts_array.mpr ⟨position, part, h, rfl⟩
      | key name => cases h
  | object members =>
      cases step with
      | index position => cases h
      | key name =>
          obtain ⟨before, after, rfl, -⟩ := List.lookup_eq_some_iff.mp h
          exact mem_parts_object.mpr ⟨(name, part), by simp, rfl⟩
  | null | bool value | number value | string value => cases h

/-- What is listed for a part at a path is listed for the whole, if it is so for direct parts. -/
theorem at?_subset {list : Json → List String}
    (hparts : ∀ value : Json, ∀ entry ∈ value.parts, list entry.2 ⊆ list value)
    {value part : Json} {path : Path} (h : value.at? path = some part) :
    list part ⊆ list value := by
  induction path generalizing value with
  | nil =>
      obtain rfl := Option.some.inj h
      exact List.Subset.refl _
  | cons step rest ih =>
      obtain ⟨child, hchild, hrest⟩ := Option.bind_eq_some_iff.mp h
      exact List.Subset.trans (ih hrest) (hparts value _ (mem_parts_of_child? hchild))

/-- What is listed for an entry is listed for all entries, if these are listed one after the other.
-/
theorem subset_of_cons {α : Type} (list : α → List String) {all : List α → List String}
    (hcons : ∀ first rest, all (first :: rest) = list first ++ all rest) {entry : α}
    {entries : List α} (h : entry ∈ entries) : list entry ⊆ all entries := by
  induction entries with
  | nil => cases h
  | cons first rest ih =>
      rw [hcons]
      rcases List.mem_cons.mp h with rfl | hrest
      · exact List.subset_append_left _ _
      · exact List.subset_append_of_subset_right _ (ih hrest)

theorem references_member_subset {members : List (String × Json)} {member : String × Json}
    (h : member ∈ members) : member.2.references ⊆ referencesInMembers members :=
  subset_of_cons (fun member : String × Json => member.2.references) (fun _ _ => rfl) h

/-- The references of a part are among those of the whole. -/
theorem references_part_subset (value : Json) : ∀ entry ∈ value.parts,
    entry.2.references ⊆ value.references := by
  intro entry hentry
  cases value with
  | array items =>
      obtain ⟨position, item, hitem, rfl⟩ := mem_parts_array.mp hentry
      exact subset_of_cons references (fun _ _ => rfl) (List.mem_of_getElem? hitem)
  | object members =>
      obtain ⟨member, hmember, rfl⟩ := mem_parts_object.mp hentry
      exact List.subset_append_of_subset_right _ (references_member_subset hmember)
  | null | bool value | number value | string value => cases hentry

theorem nested_part_subset (value : Json) : ∀ entry ∈ value.parts,
    entry.2.nestedReferences ⊆ value.nestedReferences := by
  intro entry hentry
  cases value with
  | array items =>
      obtain ⟨position, item, hitem, rfl⟩ := mem_parts_array.mp hentry
      exact subset_of_cons nestedReferences (fun _ _ => rfl) (List.mem_of_getElem? hitem)
  | object members =>
      obtain ⟨member, hmember, rfl⟩ := mem_parts_object.mp hentry
      exact List.subset_append_of_subset_left _ (subset_of_cons
        (fun member : String × Json => member.2.nestedReferences) (fun _ _ => rfl) hmember)
  | null | bool value | number value | string value => cases hentry

theorem mem_references_of_reference? {value : Json} {text : String}
    (h : value.reference? = some text) : text ∈ value.references := by
  cases value with
  | object members => exact List.mem_append_left _ (by rw [h]; exact List.mem_singleton_self _)
  | null | bool value | number value | string value | array items => cases h

/-- Whatever reference stands at a path is one of the references of the whole. -/
theorem mem_references_of_referenceAt? {value : Json} {path : Path} {text : String}
    (h : value.referenceAt? path = some text) : text ∈ value.references := by
  obtain ⟨part, hpart, hreference⟩ := Option.bind_eq_some_iff.mp h
  exact at?_subset references_part_subset hpart (mem_references_of_reference? hreference)

theorem mem_paths_of_referenceAt? {value : Json} {path : Path}
    (h : value.referenceAt? path ≠ none) : path ∈ value.paths := by
  obtain ⟨text, htext⟩ := Option.ne_none_iff_exists'.mp h
  obtain ⟨part, hpart, -⟩ := Option.bind_eq_some_iff.mp htext
  exact mem_paths_of_at? hpart

/-- A value without references has none at any path. -/
theorem referenceAt?_of_references {value : Json} (h : value.references = []) (path : Path) :
    value.referenceAt? path = none := by
  cases hreference : value.referenceAt? path with
  | none => rfl
  | some text =>
      have hmem := mem_references_of_referenceAt? hreference
      rw [h] at hmem
      cases hmem

mutual

/-- A value without references has none where the text of another one is expected. -/
theorem nestedReferences_of_references : (value : Json) → value.references = [] →
    value.nestedReferences = []
  | .array items, h => nestedInItems_of_references items h
  | .object members, h => by
      obtain ⟨-, hmembers⟩ := List.append_eq_nil_iff.mp h
      rw [nestedReferences, nestedInMembers_of_references members hmembers, List.nil_append]
      cases hnested : (members.lookup "$ref").bind reference? with
      | none => rfl
      | some text =>
          obtain ⟨value, hvalue, hreference⟩ := Option.bind_eq_some_iff.mp hnested
          obtain ⟨before, after, rfl, -⟩ := List.lookup_eq_some_iff.mp hvalue
          have hmem : text ∈ referencesInMembers (before ++ ("$ref", value) :: after) :=
            references_member_subset (List.mem_append_right before List.mem_cons_self)
              (mem_references_of_reference? hreference)
          rw [hmembers] at hmem
          cases hmem
  | .null, _ | .bool _, _ | .number _, _ | .string _, _ => rfl

theorem nestedInItems_of_references : (items : List Json) → referencesInItems items = [] →
    nestedInItems items = []
  | [], _ => rfl
  | item :: rest, h => by
      obtain ⟨hitem, hrest⟩ := List.append_eq_nil_iff.mp h
      rw [nestedInItems, nestedReferences_of_references item hitem,
        nestedInItems_of_references rest hrest, List.append_nil]

theorem nestedInMembers_of_references : (members : List (String × Json)) →
    referencesInMembers members = [] → nestedInMembers members = []
  | [], _ => rfl
  | (_, value) :: rest, h => by
      obtain ⟨hvalue, hrest⟩ := List.append_eq_nil_iff.mp h
      rw [nestedInMembers, nestedReferences_of_references value hvalue,
        nestedInMembers_of_references rest hrest, List.append_nil]

end

/-- A document together with the documents that its references name, each under its name. -/
def library (resolver : Resolver) (document : Json) : Json :=
  .object (gather resolver resolver.machine.documents "" [("", document)] document.references)

/-- A document without references has no other documents beside it. -/
theorem library_of_references {document : Json} {resolver : Resolver}
    (h : document.references = []) : document.library resolver = .object [("", document)] := by
  unfold library
  rw [h]
  cases resolver.machine.documents <;> rfl

/-- In a document that is kept alone all references stand below its empty name. -/
theorem nameOfPath_of_alone {value : Json} {path : Path}
    (h : referenceAt? (.object [("", value)]) path ≠ none) : nameOfPath path = "" := by
  cases path with
  | nil => rfl
  | cons step rest =>
      cases step with
      | index position => rfl
      | key name =>
          by_cases hname : name = ""
          · exact hname
          · exact absurd (by simp [referenceAt?, at?, child?, List.lookup_cons,
              beq_false_of_ne hname]) h

end Json

end CatalogClient
