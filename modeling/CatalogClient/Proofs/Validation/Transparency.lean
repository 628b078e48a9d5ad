/-
# Readers see trees

A reader looks at a document through what is seen from its places. So it reads the same from any two
places that unfold into the same tree, whatever stands behind them: in one document a part may be
shared, in the other it may be written out each time. Readers that are put together from such
readers are such readers again. The size of the trees is kept in sight, since the readers of parts
may only be known to agree on trees that are smaller than the one that holds them.
-/

import CatalogClient.Proofs.Json.Inlining
import CatalogClient.Validation.Reading

namespace CatalogClient

variable {α : Type}

/-- Two documents unfold into the same tree from two places. -/
structure Document.Alike (document document' : Document) (tree : Json) (place place' : Place) :
    Prop where
  left : document.Shows place tree
  right : document'.Shows place' tree

variable {document document' : Document} {size : Nat}

open Document

/-- What is seen is alike, and so are the parts. -/
theorem Document.Alike.view {tree : Json} {place place' : Place}
    (h : Alike document document' tree place place') :
    ∃ part part' : Step → Place, document.view place = tree.viewThrough part ∧
      document'.view place' = tree.viewThrough part' ∧
      ∀ entry ∈ tree.parts, Alike document document' entry.2 (part entry.1) (part' entry.1) := by
  obtain ⟨⟨view, parts⟩, ⟨view', parts'⟩⟩ := h
  exact ⟨_, _, view, view', fun entry hentry => ⟨parts entry hentry, parts' entry hentry⟩⟩

/-- The parts of a tree are smaller than the tree. -/
theorem Json.sizeOf_lt_of_mem_parts {tree : Json} {entry : Step × Json} (h : entry ∈ tree.parts) :
    sizeOf entry.2 < sizeOf tree := by
  cases tree with
  | array items =>
      obtain ⟨position, item, hitem, rfl⟩ := mem_parts_array.mp h
      have hless := List.sizeOf_lt_of_mem (List.mem_of_getElem? hitem)
      simp only [array.sizeOf_spec]
      omega
  | object members =>
      obtain ⟨⟨name, value⟩, hmember, rfl⟩ := mem_parts_object.mp h
      have hless := List.sizeOf_lt_of_mem hmember
      simp only [Prod.mk.sizeOf_spec] at hless
      simp only [object.sizeOf_spec]
      omega
  | null | bool value | number value | string value => cases h

/-- Two ways to read from two documents agree wherever these unfold into the same tree that is
smaller than a size. -/
def ReadAlike (document document' : Document) (size : Nat) (read read' : Place → Validated α) :
    Prop :=
  ∀ tree place place', sizeOf tree < size → Alike document document' tree place place' →
    read place = read' place'

/-- A reader reads the same from any two places that unfold into the same tree. -/
def Reader.Transparent (read : Reader α) : Prop :=
  ∀ document document' tree place place', Alike document document' tree place place' →
    read document place = read document' place'

theorem Reader.Transparent.readAlike {read : Reader α} (h : read.Transparent) :
    ReadAlike document document' size (read document) (read document') :=
  fun tree place place' _ halike => h document document' tree place place' halike

namespace Reader

theorem transparent_text : Transparent text := by
  intro document document' tree place place' h
  obtain ⟨part, part', hview, hview', -⟩ := h.view
  unfold text
  rw [hview, hview']
  cases tree <;> rfl

theorem transparent_choice (all : List α) (label : α → String) :
    Transparent (choice all label) := by
  intro document document' tree place place' h
  obtain ⟨part, part', hview, hview', -⟩ := h.view
  unfold choice
  rw [hview, hview']
  cases tree <;> rfl

theorem transparent_truth : Transparent truth := by
  intro document document' tree place place' h
  obtain ⟨part, part', hview, hview', -⟩ := h.view
  unfold truth
  rw [hview, hview']
  cases tree <;> rfl

section Parts

variable {read read' : Reader α}
  (hread : ReadAlike document document' size (read document) (read' document'))
include hread

theorem alike_optional :
    ReadAlike document document' size (read.optional document) (read'.optional document') := by
  intro tree place place' hsize h
  obtain ⟨part, part', hview, hview', -⟩ := h.view
  have hvalue := hread tree place place' hsize h
  unfold optional
  rw [hview, hview', hvalue]
  cases tree <;> rfl

theorem alike_list (otherwise : Complaint) :
    ReadAlike document document' size (read.list otherwise document)
      (read'.list otherwise document') := by
  intro tree place place' hsize h
  obtain ⟨part, part', hview, hview', hparts⟩ := h.view
  unfold list
  rw [hview, hview']
  cases tree with
  | array items =>
      have hitem : ∀ position (hposition : position < items.length),
          read document (part (.index position)) = read' document' (part' (.index position)) := by
        intro position hposition
        have hmem : (Step.index position, items[position]) ∈ (Json.array items).parts :=
          Json.mem_parts_array.mpr ⟨position, _, List.getElem?_eq_getElem hposition, rfl⟩
        exact hread _ _ _ (Nat.lt_trans (Json.sizeOf_lt_of_mem_parts hmem) hsize) (hparts _ hmem)
      simp only [Json.viewThrough, Reader.items]
      congr 1
      apply List.ext_getElem (by simp)
      intro position hleft hright
      have hposition : position < items.length := by simpa using hleft
      simp [hitem position hposition]
  | null | bool value | number value | string value | object members => rfl

theorem alike_dictionary :
    ReadAlike document document' size (read.dictionary document) (read'.dictionary document') := by
  intro tree place place' hsize h
  obtain ⟨part, part', hview, hview', hparts⟩ := h.view
  unfold dictionary
  rw [hview, hview']
  cases tree with
  | object members =>
      simp only [Json.viewThrough, List.map_map]
      congr 1
      apply List.map_congr_left
      intro member hmember
      have hmem : (Step.key member.1, member.2) ∈ (Json.object members).parts :=
        Json.mem_parts_object.mpr ⟨member, hmember, rfl⟩
      have hvalue :=
        hread _ _ _ (Nat.lt_trans (Json.sizeOf_lt_of_mem_parts hmem) hsize) (hparts _ hmem)
      simp only [Function.comp_apply, hvalue]
  | null | bool value | number value | string value | array items => rfl

end Parts

theorem Transparent.optional {read : Reader α} (h : read.Transparent) :
    read.optional.Transparent :=
  fun _ _ tree _ _ halike => alike_optional h.readAlike tree _ _ (Nat.lt_succ_self _) halike

theorem Transparent.list {read : Reader α} (h : read.Transparent) (otherwise : Complaint) :
    (read.list otherwise).Transparent :=
  fun _ _ tree _ _ halike => alike_list h.readAlike otherwise tree _ _ (Nat.lt_succ_self _) halike

theorem Transparent.dictionary {read : Reader α} (h : read.Transparent) :
    read.dictionary.Transparent :=
  fun _ _ tree _ _ halike => alike_dictionary h.readAlike tree _ _ (Nat.lt_succ_self _) halike

end Reader

/-- Two objects have the same names, and from the values under each name the documents unfold into
the same tree. -/
def FieldsAlike (document document' : Document) (size : Nat) (fields fields' : Keyed Place) :
    Prop :=
  ∀ name, Option.Rel (fun place place' => ∃ tree, sizeOf tree < size ∧
    Alike document document' tree place place') (fields.get? name) (fields'.get? name)

/-- The values that are seen in an object. -/
theorem fieldsAlike_of_parts {members : List (String × Json)} {part part' : Step → Place}
    (h : ∀ entry ∈ (Json.object members).parts,
      Alike document document' entry.2 (part entry.1) (part' entry.1)) :
    FieldsAlike document document' (sizeOf (Json.object members))
      (members.map fun member => (member.1, part (.key member.1)))
      (members.map fun member => (member.1, part' (.key member.1))) := by
  intro name
  rw [Keyed.get?, Keyed.get?, Json.lookup_map members fun name => part (.key name),
    Json.lookup_map members fun name => part' (.key name)]
  cases hlookup : members.lookup name with
  | none => exact .none
  | some value =>
      obtain ⟨before, after, hsplit, -⟩ := List.lookup_eq_some_iff.mp hlookup
      have hmem : (Step.key name, value) ∈ (Json.object members).parts :=
        Json.mem_parts_object.mpr ⟨(name, value), by simp [hsplit], rfl⟩
      exact .some ⟨value, Json.sizeOf_lt_of_mem_parts hmem, h _ hmem⟩

namespace FieldsAlike

variable {fields fields' : Keyed Place}
  (hfields : FieldsAlike document document' size fields fields')
include hfields

theorem required (name : String) {read read' : Place → Validated α}
    (hread : ReadAlike document document' size read read') :
    fields.required name read = fields'.required name read' := by
  unfold Keyed.required
  have hname := hfields name
  generalize fields.get? name = place, fields'.get? name = place' at hname ⊢
  cases hname with
  | none => rfl
  | some hplace =>
      obtain ⟨tree, hsize, halike⟩ := hplace
      simp only [hread tree _ _ hsize halike]

theorem withDefault (name : String) (default : α) {read read' : Place → Validated α}
    (hread : ReadAlike document document' size read read') :
    fields.withDefault name default read = fields'.withDefault name default read' := by
  unfold Keyed.withDefault
  have hname := hfields name
  generalize fields.get? name = place, fields'.get? name = place' at hname ⊢
  cases hname with
  | none => rfl
  | some hplace =>
      obtain ⟨tree, hsize, halike⟩ := hplace
      simp only [hread tree _ _ hsize halike]

end FieldsAlike

/-- A model is read in the same way if its fields are. -/
theorem Reader.transparent_model {name : String} {read : Document → Keyed Place → Validated α}
    (hread : ∀ document document' size fields fields',
      FieldsAlike document document' size fields fields' →
        read document fields = read document' fields') :
    (Reader.model name read).Transparent := by
  intro document document' tree place place' h
  obtain ⟨part, part', hview, hview', hparts⟩ := h.view
  unfold Reader.model
  rw [hview, hview']
  cases tree with
  | object members => exact hread _ _ _ _ _ (fieldsAlike_of_parts hparts)
  | null | bool value | number value | string value | array items => rfl

end CatalogClient
