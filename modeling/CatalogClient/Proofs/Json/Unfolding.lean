/-
# Documents as trees

Seen from a place, a document may unfold into a finite tree: a value without references in which
every part stands where it is seen. Parts that are shared occur in the tree once for each time that
they are seen. A place unfolds into at most one tree.
-/

import CatalogClient.Json.Document

namespace CatalogClient

namespace Json

/-- The direct parts of a value, each with the step that leads to it. -/
def parts : Json → List (Step × Json)
  | .array items => items.zipIdx.map fun entry => (.index entry.2, entry.1)
  | .object members => members.map fun member => (.key member.1, member.2)
  | .null | .bool _ | .number _ | .string _ => []

theorem mem_parts_array {items : List Json} {entry : Step × Json} :
    entry ∈ (array items).parts ↔
      ∃ position item, items[position]? = some item ∧ entry = (.index position, item) := by
  constructor
  · intro h
    obtain ⟨⟨item, position⟩, hitem, rfl⟩ := List.mem_map.mp h
    exact ⟨position, item, List.mk_mem_zipIdx_iff_getElem?.mp hitem, rfl⟩
  · rintro ⟨position, item, hitem, rfl⟩
    exact List.mem_map.mpr ⟨(item, position), List.mk_mem_zipIdx_iff_getElem?.mpr hitem, rfl⟩

theorem mem_parts_object {members : List (String × Json)} {entry : Step × Json} :
    entry ∈ (object members).parts ↔
      ∃ member ∈ members, entry = (.key member.1, member.2) := by
  constructor
  · intro h
    obtain ⟨member, hmember, rfl⟩ := List.mem_map.mp h
    exact ⟨member, hmember, rfl⟩
  · rintro ⟨member, hmember, rfl⟩
    exact List.mem_map_of_mem hmember

/-- The view of a value whose parts are seen at given places. -/
def viewThrough (part : Step → Place) : Json → View
  | .null => .null
  | .bool value => .bool value
  | .number value => .number value
  | .string value => .string value
  | .array items => .array ((List.range items.length).map fun position => part (.index position))
  | .object members => .object (members.map fun member => (member.1, part (.key member.1)))

end Json

namespace Document

open Json

variable {document : Document}

theorem viewOf_eq (document : Document) (path : Path) (value : Json) :
    document.viewOf path value =
      value.viewThrough fun step => document.follow (path ++ [step]) := by
  cases value <;> rfl

/-- The tree that a document unfolds into from a place on: what is seen there is the top of the
tree, and the document unfolds into each part of the tree from the place where it is seen. -/
inductive Shows (document : Document) : Place → Json → Prop
  | intro {place : Place} {tree : Json} {part : Step → Place}
      (view : document.view place = tree.viewThrough part)
      (parts : ∀ entry ∈ tree.parts, document.Shows (part entry.1) entry.2) :
      document.Shows place tree

/-- Two lists that are seen in the same way from the same places are equal if their items are. -/
theorem items_unique {items others : List Json} {part part' : Step → Place}
    (hview : (Json.array items).viewThrough part = (Json.array others).viewThrough part')
    (h : ∀ position item other, part (.index position) = part' (.index position) →
      items[position]? = some item → others[position]? = some other → item = other) :
    items = others := by
  have hplaces := View.array.inj hview
  have hlength : items.length = others.length := by simpa using congrArg List.length hplaces
  apply List.ext_getElem hlength
  intro position hitem hother
  refine h position _ _ ?_ (List.getElem?_eq_getElem hitem) (List.getElem?_eq_getElem hother)
  have hsame := congrArg (·[position]?) hplaces
  simpa [hitem, hother] using hsame

theorem members_unique {members others : List (String × Json)} {part part' : Step → Place}
    (hview : (Json.object members).viewThrough part = (Json.object others).viewThrough part')
    (h : ∀ member ∈ members, ∀ other ∈ others, member.1 = other.1 →
      part (.key member.1) = part' (.key other.1) → member.2 = other.2) :
    members = others := by
  have hplaces := View.object.inj hview
  have hlength : members.length = others.length := by simpa using congrArg List.length hplaces
  apply List.ext_getElem hlength
  intro position hmember hother
  have hsame := congrArg (·[position]?) hplaces
  obtain ⟨hname, hpart⟩ : members[position].1 = others[position].1 ∧
      part (.key members[position].1) = part' (.key others[position].1) := by
    simpa [hmember, hother] using hsame
  exact Prod.ext hname
    (h _ (List.getElem_mem hmember) _ (List.getElem_mem hother) hname hpart)

/-- A place unfolds into at most one tree. -/
theorem Shows.unique {place : Place} {tree other : Json} (h : document.Shows place tree)
    (h' : document.Shows place other) : tree = other := by
  induction h generalizing other with
  | @intro place tree part view parts ih =>
      obtain @⟨_, _, part', view', parts'⟩ := h'
      have hview := view.symm.trans view'
      cases tree with
      | array items =>
          cases other with
          | array others =>
              congr 1
              apply items_unique hview
              intro position item other hpart hitem hother
              have hmem := mem_parts_array.mpr ⟨position, item, hitem, rfl⟩
              have hmem' := mem_parts_array.mpr ⟨position, other, hother, rfl⟩
              refine ih (.index position, item) hmem ?_
              rw [hpart]
              exact parts' (.index position, other) hmem'
          | null | bool _ | number _ | string _ | object _ => cases hview
      | object members =>
          cases other with
          | object others =>
              congr 1
              apply members_unique hview
              intro member hmember other hother hname hpart
              refine ih (.key member.1, member.2) (mem_parts_object.mpr ⟨member, hmember, rfl⟩) ?_
              rw [hpart]
              exact parts' (.key other.1, other.2) (mem_parts_object.mpr ⟨other, hother, rfl⟩)
          | null | bool _ | number _ | string _ | array _ => cases hview
      | null | bool _ | number _ | string _ =>
          cases other with
          | array _ | object _ => cases hview
          | null | bool _ | number _ | string _ => cases hview <;> rfl

end Document

end CatalogClient
