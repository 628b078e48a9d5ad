/-
# Type expressions that read as nothing

Two items of a group have a comma between them, so a group reads as nothing only if it holds no item
or a single one that reads as nothing itself. A wrapper ends this: around nothing it gives way to
the type of all values. What reads as nothing is therefore an empty word or an empty group, with
groups of one item and without a wrapper around it, however many there are.
-/

import CatalogClient.TypeScript.Expression

namespace CatalogClient

/-- A name with the texts of types between angle brackets. -/
def angled (name : String) (texts : List String) : String :=
  name ++ "<" ++ ", ".intercalate texts ++ ">"

theorem angled_ne_empty (name : String) (texts : List String) : angled name texts ≠ "" := by
  simp [angled]

/-- No name with brackets is the type of all values. -/
theorem angled_ne_anyType (name : String) (texts : List String) : angled name texts ≠ anyType := by
  intro h
  have hbracket : '<' ∈ (angled name texts).toList := by simp [angled]
  rw [h] at hbracket
  exact absurd hbracket (by decide)

/-- Texts with commas between them are nothing only if there are none, or a single empty one. -/
theorem intercalate_eq_empty_iff (texts : List String) :
    ", ".intercalate texts = "" ↔ texts = [] ∨ texts = [""] := by
  rcases texts with - | ⟨first, - | ⟨second, rest⟩⟩ <;> simp

namespace Expression

/-- A wrapper around types that do not read as nothing stays. -/
theorem wrap_of_forall_ne {texts : List String} (hsome : texts ≠ [])
    (htexts : ∀ text ∈ texts, text ≠ "") (wrapper : String) :
    wrap (some wrapper) (", ".intercalate texts) = angled wrapper texts := by
  have hinside : ", ".intercalate texts ≠ "" := by
    rw [Ne, intercalate_eq_empty_iff]
    rintro (rfl | rfl)
    · exact hsome rfl
    · exact htexts "" (List.mem_singleton_self _) rfl
  rw [wrap, if_neg hinside, angled]

theorem renderAll_words (words : List String) : renderAll (words.map .word) = words := by
  rw [renderAll_eq_map, List.map_map]
  exact List.map_id' words

/-- A group of one item without a wrapper reads as the item. -/
theorem render_single (item : Expression) : (group [item] none).render = item.render := by
  simp [render, renderAll, wrap]

theorem render_ofWord (word : String) : (ofWord word).render = word := by
  rw [ofWord, render_single, render]

/-- Whether items leave nothing to wrap: there are none, or a single one that reads as nothing. -/
def ReadAsNothing (items : List Expression) : Prop :=
  items = [] ∨ ∃ item, items = [item] ∧ item.render = ""

theorem intercalate_renderAll_eq_empty_iff {items : List Expression} :
    ", ".intercalate (renderAll items) = "" ↔ ReadAsNothing items := by
  rw [intercalate_eq_empty_iff, renderAll_eq_map, List.map_eq_nil_iff, List.map_eq_singleton_iff]
  rfl

theorem render_wrapped_of_readAsNothing {items : List Expression} (h : ReadAsNothing items)
    (name : String) : (group items (some name)).render = anyType := by
  rw [render, wrap, if_pos (intercalate_renderAll_eq_empty_iff.mpr h)]

theorem render_wrapped_of_not_readAsNothing {items : List Expression} (h : ¬ReadAsNothing items)
    (name : String) : (group items (some name)).render = angled name (items.map render) := by
  rw [render, wrap, if_neg (mt intercalate_renderAll_eq_empty_iff.mp h), renderAll_eq_map, angled]

/-- Nothing that stands in a wrapper reads as nothing. -/
theorem render_wrapped_ne_empty (items : List Expression) (name : String) :
    (group items (some name)).render ≠ "" := by
  by_cases h : ReadAsNothing items
  · rw [render_wrapped_of_readAsNothing h]
    decide
  · rw [render_wrapped_of_not_readAsNothing h]
    exact angled_ne_empty _ _

theorem render_group_eq_empty_iff {items : List Expression} {wrapper : Option String} :
    (group items wrapper).render = "" ↔ wrapper = none ∧ ReadAsNothing items := by
  cases wrapper with
  | none => rw [render, wrap, intercalate_renderAll_eq_empty_iff, eq_self, true_and]
  | some name => simp [render_wrapped_ne_empty]

/-- The expressions that read as nothing, by how they are made. -/
inductive Vanishes : Expression → Prop
  | word : Vanishes (.word "")
  | nothing : Vanishes (.group [] none)
  | single {item : Expression} (inside : Vanishes item) : Vanishes (.group [item] none)

theorem Vanishes.render_eq_empty {expression : Expression} (h : expression.Vanishes) :
    expression.render = "" := by
  induction h with
  | word => rfl
  | nothing => rfl
  | single _ ih => rw [render_single, ih]

theorem vanishes_of_render_eq_empty : (expression : Expression) → expression.render = "" →
    expression.Vanishes
  | .word text, h => by
      obtain rfl : text = "" := h
      exact .word
  | .group [] none, _ => .nothing
  | .group [item] none, h =>
      .single (vanishes_of_render_eq_empty item ((render_single item).symm.trans h))
  | .group (_ :: _ :: _) none, h => by
      obtain ⟨-, hnone | ⟨item, hsingle, -⟩⟩ := render_group_eq_empty_iff.mp h
      · cases hnone
      · cases hsingle
  | .group items (some name), h => absurd h (render_wrapped_ne_empty items name)

/-- A group reads as nothing only without a wrapper, and only if it holds no item or a single one
that reads as nothing; so it goes down to an empty word or an empty group. A wrapper, even one
without a name, gives way to the type of all values around just such items, and stands around the
texts of all others. A group of one item without a wrapper changes nothing. -/
theorem render_vanishes_through_singles (items : List Expression) (wrapper : Option String)
    (name : String) (expression : Expression) :
    ((group items wrapper).render = "" ↔ wrapper = none ∧ ReadAsNothing items) ∧
      (expression.render = "" ↔ expression.Vanishes) ∧
      ((group items (some name)).render = anyType ↔ ReadAsNothing items) ∧
      ((group items (some name)).render = angled name (items.map render) ↔
        ¬ReadAsNothing items) ∧
      (group [expression] none).render = expression.render := by
  refine ⟨render_group_eq_empty_iff,
    ⟨vanishes_of_render_eq_empty expression, Vanishes.render_eq_empty⟩, ?_, ?_,
    render_single expression⟩
  · refine ⟨fun hany => Classical.byContradiction fun hsome => ?_,
      fun h => render_wrapped_of_readAsNothing h name⟩
    rw [render_wrapped_of_not_readAsNothing hsome] at hany
    exact angled_ne_anyType _ _ hany
  · refine ⟨fun hangled hnothing => ?_, fun h => render_wrapped_of_not_readAsNothing h name⟩
    rw [render_wrapped_of_readAsNothing hnothing] at hangled
    exact angled_ne_anyType _ _ hangled.symm

end Expression

end CatalogClient
