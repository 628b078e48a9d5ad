/-
# Separators between query components

What sets off a query component is chosen by a look through the whole address that stands so far:
its path, but also the keys and the placeholders of earlier components. The choice is still made by
the path alone. Each component leaves a question mark somewhere in front of the next one, since it
brings one along unless there is one already, so only the first component can bring one.
-/

import CatalogClient.Proofs.TypeScript.Url

namespace CatalogClient.Url

/-- An address with query components added one by one. -/
def addAll (url : Url) (entries : List (String × Option String)) : Url :=
  entries.foldl (fun url entry => url.add entry.1 entry.2) url

/-- What a query component reads as: its key, and its placeholder between braces. Where there is no
placeholder, or an empty one, the key stands between the braces as well. -/
def componentText : String × Option String → String
  | (key, none) => key ++ "=\x7b" ++ key ++ "\x7d"
  | (key, some name) => key ++ "=\x7b" ++ (if name = "" then key else name) ++ "\x7d"

variable (url : Url)

theorem addAll_concat (entries : List (String × Option String)) (entry : String × Option String) :
    url.addAll (entries ++ [entry]) = (url.addAll entries).add entry.1 entry.2 := by
  rw [addAll, List.foldl_append]
  rfl

/-- One more component goes behind the address as it was. -/
theorem render_add (entry : String × Option String) :
    (url.add entry.1 entry.2).render =
      url.render ++ separator url.render ++ componentText entry := by
  obtain ⟨key, placeholder⟩ := entry
  rw [render, add, List.foldl_append]
  cases placeholder with
  | none => rfl
  | some name => rfl

theorem separator_of_mem {text : String} (h : '?' ∈ text.toList) : separator text = "&" :=
  if_pos (List.contains_iff_mem.mpr h)

theorem separator_of_not_mem {text : String} (h : '?' ∉ text.toList) : separator text = "?" :=
  if_neg (by simpa using h)

/-- Behind every component there is a question mark to be found. -/
theorem mem_render_add (entry : String × Option String) :
    '?' ∈ (url.add entry.1 entry.2).render.toList := by
  rw [render_add, String.toList_append, String.toList_append]
  by_cases h : '?' ∈ url.render.toList
  · exact List.mem_append_left _ (List.mem_append_left _ h)
  · rw [separator_of_not_mem h]
    exact List.mem_append_left _ (List.mem_append_right _ (by decide))

/-- What sets off a component that is added to others: only the first one of all, behind a path
without a question mark, is set off by one. -/
theorem separator_render_addAll (path : String) (entries : List (String × Option String)) :
    separator (addAll { path } entries).render =
      if entries = [] ∧ '?' ∉ path.toList then "?" else "&" := by
  cases entries using List.reverseRecOn with
  | nil =>
      change separator path = _
      by_cases h : '?' ∈ path.toList
      · rw [separator_of_mem h, if_neg (fun hnone => hnone.2 h)]
      · rw [separator_of_not_mem h, if_pos ⟨rfl, h⟩]
  | append_singleton earlier last =>
      rw [addAll_concat, separator_of_mem (mem_render_add _ last), if_neg (by simp)]

theorem render_addAll_concat (path : String) (entries : List (String × Option String))
    (entry : String × Option String) :
    (addAll { path } (entries ++ [entry])).render =
      (addAll { path } entries).render
        ++ (if entries = [] ∧ '?' ∉ path.toList then "?" else "&") ++ componentText entry := by
  rw [addAll_concat, render_add, separator_render_addAll]

/-- The induction goes from the last component backwards, as they are added. -/
theorem render_addAll_cons (path : String) (first : String × Option String)
    (rest : List (String × Option String)) :
    (addAll { path } (first :: rest)).render =
      path ++ (if '?' ∈ path.toList then "&" else "?")
        ++ "&".intercalate ((first :: rest).map componentText) := by
  induction rest using List.reverseRecOn with
  | nil =>
      have hfirst := render_addAll_concat path [] first
      rw [List.nil_append] at hfirst
      rw [hfirst, List.map_singleton, String.intercalate_singleton]
      by_cases h : '?' ∈ path.toList
      · rw [if_pos h, if_neg (fun hnone => hnone.2 h)]
        rfl
      · rw [if_neg h, if_pos ⟨rfl, h⟩]
        rfl
  | append_singleton earlier last ih =>
      have hmore : ¬(first :: earlier = [] ∧ '?' ∉ path.toList) := by simp
      rw [← List.cons_append, render_addAll_concat, if_neg hmore, ih, List.map_append,
        String.intercalate_append_of_ne_nil (by simp) (by simp), List.map_singleton,
        String.intercalate_singleton]
      simp only [String.append_assoc]

/-- The ampersands between texts add no question mark. -/
theorem count_intercalate (texts : List String) :
    ("&".intercalate texts).toList.count '?' = (String.join texts).toList.count '?' := by
  induction texts with
  | nil => rfl
  | cons text rest ih =>
      cases rest with
      | nil =>
          rw [String.intercalate_singleton, String.join_cons, String.join_nil, String.append_empty]
      | cons next others =>
          have hplain : "&".toList.count '?' = 0 := by decide
          rw [String.intercalate_cons_cons, String.join_cons, String.toList_append,
            String.toList_append, String.toList_append, List.count_append, List.count_append,
            List.count_append, hplain, ih, Nat.add_zero]

/-- Query components stand behind the path with ampersands between them, and what sets off the first
is an ampersand if the path has a question mark, and a question mark if not, whatever the components
are. So there is one question mark more than in the path and the components, or none, and one more
component goes behind all that stands already, set off by an ampersand if it is not the first on a
path without a question mark. -/
theorem render_sets_off_components (path : String) (first entry : String × Option String)
    (rest entries : List (String × Option String)) :
    (addAll { path } (first :: rest)).render =
        path ++ (if '?' ∈ path.toList then "&" else "?")
          ++ "&".intercalate ((first :: rest).map componentText) ∧
      (addAll { path } (first :: rest)).render.toList.count '?' =
        (path ++ String.join ((first :: rest).map componentText)).toList.count '?'
          + (if '?' ∈ path.toList then 0 else 1) ∧
      (addAll { path } (entries ++ [entry])).render =
        (addAll { path } entries).render
          ++ (if entries = [] ∧ '?' ∉ path.toList then "?" else "&") ++ componentText entry := by
  refine ⟨render_addAll_cons path first rest, ?_, render_addAll_concat path entries entry⟩
  have hseparator : (if '?' ∈ path.toList then "&" else "?").toList.count '?' =
      if '?' ∈ path.toList then 0 else 1 := by
    split <;> decide
  rw [render_addAll_cons, String.toList_append, String.toList_append, String.toList_append,
    List.count_append, List.count_append, List.count_append, count_intercalate, hseparator,
    Nat.add_right_comm]

/-- A question mark in the first key does not bring another one in front of the second. -/
example : (addAll { path := "/users" } [("a?", none), ("page", some "pageable.page")]).render =
    "/users?a?={a?}&page={pageable.page}" := by
  decide

end CatalogClient.Url
