/-
# The links of a document

Resolving a document visits every part that is reached from its top through what the places on the
way mean. Each of them is linked to what it means, or it is no reference, and no part of what is
visited is left out. So the view of the document goes through its references as if each were the
value that it means.
-/

import CatalogClient.Proofs.Json.Meaning

namespace CatalogClient

namespace Json

theorem at?_append (value : Json) (path rest : Path) :
    value.at? (path ++ rest) = (value.at? path).bind (·.at? rest) := by
  induction path generalizing value with
  | nil => rfl
  | cons step path ih =>
      rw [List.cons_append, at?, at?]
      cases value.child? step with
      | none => rfl
      | some child => exact ih child

theorem at?_snoc {value part : Json} {path : Path} (h : value.at? path = some part) (step : Step) :
    value.at? (path ++ [step]) = part.child? step := by
  rw [at?_append, h]
  show (part.child? step).bind (at? · []) = part.child? step
  cases part.child? step <;> rfl

theorem isSome_lookup_of_mem {α : Type} {members : List (String × α)} {name : String}
    (h : name ∈ members.map Prod.fst) : (members.lookup name).isSome = true := by
  induction members with
  | nil => cases h
  | cons member rest ih =>
      obtain ⟨first, value⟩ := member
      by_cases hsame : name = first
      · simp [hsame]
      · have hrest : name ∈ rest.map Prod.fst := (List.mem_cons.mp h).resolve_left hsame
        simpa [List.lookup_cons, beq_false_of_ne hsame] using ih hrest

/-- Where the values depend on the names alone, only the names decide what is found. -/
theorem lookup_map {α β : Type} (members : List (String × α)) (value : String → β)
    (name : String) : (members.map fun member => (member.1, value member.1)).lookup name =
      (members.lookup name).map fun _ => value name := by
  induction members with
  | nil => rfl
  | cons member rest ih =>
      obtain ⟨first, entry⟩ := member
      by_cases hsame : name = first
      · simp [hsame]
      · simpa [List.lookup_cons, beq_false_of_ne hsame] using ih

/-- Every step from a value leads to a part of it. -/
theorem isSome_child?_of_mem_steps {value : Json} {step : Step} (h : step ∈ value.steps) :
    (value.child? step).isSome = true := by
  cases value with
  | array items =>
      obtain ⟨position, hposition, rfl⟩ := List.mem_map.mp h
      have hlength : position < items.length := List.mem_range.mp hposition
      simp [child?, hlength]
  | object members =>
      obtain ⟨member, hmember, rfl⟩ := List.mem_map.mp h
      exact isSome_lookup_of_mem (List.mem_map_of_mem hmember)
  | null => cases h
  | bool value => cases h
  | number value => cases h
  | string value => cases h

variable {root : Json}

theorem mem_partPaths {path part : Path} :
    part ∈ root.partPaths (.node path) ↔
      ∃ value, root.at? path = some value ∧ ∃ step ∈ value.steps, path ++ [step] = part := by
  unfold partPaths
  cases hvalue : root.at? path <;> simp [hvalue]

theorem isSome_at?_of_mem_partPaths {place : Place} {part : Path}
    (h : part ∈ root.partPaths place) : (root.at? part).isSome = true := by
  cases place with
  | letter c => cases h
  | node path =>
      obtain ⟨value, hvalue, step, hstep, rfl⟩ := mem_partPaths.mp h
      rw [at?_snoc hvalue]
      exact isSome_child?_of_mem_steps hstep

/-- A link to what a path means keeps the links sound. -/
theorem SoundLinks.visit {links : List (Path × Place)} {path : Path} {value : Json}
    (h : SoundLinks root links)
    {place : Place} (hmeans : Means root (.node path) place) :
    SoundLinks root (if value.reference?.isSome then links ++ [(path, place)] else links) := by
  split
  · intro other found hfound
    rw [List.lookup_append] at hfound
    cases hlink : links.lookup other with
    | some linked =>
        rw [hlink] at hfound
        obtain rfl := Option.some.inj hfound
        exact h other linked hlink
    | none =>
        rw [hlink, List.lookup_cons] at hfound
        by_cases hsame : other = path
        · subst hsame
          rw [beq_self_eq_true] at hfound
          obtain rfl := Option.some.inj hfound
          exact hmeans
        · rw [beq_false_of_ne hsame] at hfound
          cases hfound
  · exact h

/-- The place that a path is linked to, or else the path itself. -/
def linked (links : List (Path × Place)) (path : Path) : Place :=
  (links.lookup path).getD (.node path)

/-- What is known of the links when some paths have been visited and others are pending. -/
structure Linked (root : Json) (pending seen : List Path) (links : List (Path × Place)) : Prop where
  sound : SoundLinks root links
  keys : ∀ path, (links.lookup path).isSome = true → path ∈ seen
  means : ∀ path ∈ seen, Means root (.node path) (linked links path)
  parts : ∀ path ∈ seen, ∀ part ∈ root.partPaths (linked links path), part ∈ seen ∨ part ∈ pending

namespace Linked

variable {pending seen : List Path} {links : List (Path × Place)} {path : Path}

theorem start (pending : List Path) : Linked root pending [] [] where
  sound := .nil
  keys := nofun
  means := nofun
  parts := nofun

theorem lookup_of_fresh (h : Linked root pending seen links) (hfresh : path ∉ seen) :
    links.lookup path = none := by
  cases hlink : links.lookup path with
  | none => rfl
  | some place => exact absurd (h.keys path (by rw [hlink]; rfl)) hfresh

/-- A path that was visited before, or that leads nowhere, is dropped. -/
theorem drop (h : Linked root (path :: pending) seen links)
    (hdropped : path ∈ seen ∨ root.at? path = none) : Linked root pending seen links where
  sound := h.sound
  keys := h.keys
  means := h.means
  parts := by
    intro owner howner part hpart
    rcases h.parts owner howner part hpart with hseen | hpending
    · exact Or.inl hseen
    rcases List.mem_cons.mp hpending with rfl | hpending
    · rcases hdropped with hseen | hnone
      · exact Or.inl hseen
      · have hsome := isSome_at?_of_mem_partPaths hpart
        rw [hnone] at hsome
        cases hsome
    · exact Or.inr hpending

/-- A link of one more path changes nothing for the others. -/
theorem linked_append {other : Path} (place : Place) (hother : other ≠ path) :
    linked (links ++ [(path, place)]) other = linked links other := by
  unfold linked
  rw [List.lookup_append, List.lookup_cons, beq_false_of_ne hother]
  cases links.lookup other <;> rfl

theorem linked_append_self (place : Place) (hfresh : links.lookup path = none) :
    linked (links ++ [(path, place)]) path = place := by
  unfold linked
  rw [List.lookup_append, hfresh, List.lookup_cons, beq_self_eq_true]
  rfl

/-- A path that is visited is linked to what it means, and its parts are visited later. -/
theorem visit (h : Linked root (path :: pending) seen links) (hfresh : path ∉ seen)
    {value : Json} (hvalue : root.at? path = some value) {place : Place}
    (hmeans : Means root (.node path) place) :
    Linked root (root.partPaths place ++ pending) (path :: seen)
      (if value.reference?.isSome then links ++ [(path, place)] else links) := by
  have hnone := h.lookup_of_fresh hfresh
  have hreference : root.referenceAt? path = value.reference? := by
    rw [referenceAt?, hvalue]
    rfl
  have hself : linked (if value.reference?.isSome then links ++ [(path, place)] else links) path =
      place := by
    split
    · exact linked_append_self place hnone
    · next hplain =>
        rw [Option.not_isSome_iff_eq_none, ← hreference] at hplain
        rw [hmeans.unique (.value hplain), linked, hnone]
        rfl
  have hothers : ∀ other ∈ seen,
      linked (if value.reference?.isSome then links ++ [(path, place)] else links) other =
        linked links other := by
    intro other hother
    split
    · exact linked_append place (ne_of_mem_of_not_mem hother hfresh)
    · rfl
  refine ⟨h.sound.visit hmeans, ?_, ?_, ?_⟩
  · intro other hlinked
    by_cases hsame : other = path
    · exact List.mem_cons.mpr (Or.inl hsame)
    · refine List.mem_cons_of_mem _ (h.keys other ?_)
      split at hlinked
      · rw [List.lookup_append, List.lookup_cons, beq_false_of_ne hsame] at hlinked
        simpa using hlinked
      · exact hlinked
  · refine List.forall_mem_cons.mpr ⟨by rwa [hself], fun other hother => ?_⟩
    rw [hothers other hother]
    exact h.means other hother
  · refine List.forall_mem_cons.mpr ⟨fun part hpart => ?_, fun other hother part hpart => ?_⟩
    · rw [hself] at hpart
      exact Or.inr (List.mem_append_left _ hpart)
    · rw [hothers other hother] at hpart
      rcases h.parts other hother part hpart with hseen | hpending
      · exact Or.inl (List.mem_cons_of_mem _ hseen)
      · rcases List.mem_cons.mp hpending with rfl | hpending
        · exact Or.inl List.mem_cons_self
        · exact Or.inr (List.mem_append_right _ hpending)

end Linked

/-- Once all links are found, everything pending has been visited, and all that it leads to. -/
theorem linked_of_linksFrom {resolver : Resolver} {pending : List (Nat × Path)} {seen : List Path}
    {links final : List (Path × Place)}
    (h : linksFrom resolver root pending seen links = .ok final)
    (hlinked : Linked root (pending.map Prod.snd) seen links) :
    ∃ visited, seen ⊆ visited ∧
      (∀ entry ∈ pending, (root.at? entry.2).isSome = true → entry.2 ∈ visited) ∧
      Linked root [] visited final := by
  fun_induction linksFrom resolver root pending seen links with
  | case1 seen links =>
      obtain rfl := Except.ok.inj h
      exact ⟨seen, List.Subset.refl _, List.forall_mem_nil _, hlinked⟩
  | case2 => cases h
  | case3 seen links level path rest hfar hmet ih =>
      obtain ⟨visited, hseen, hpending, hfinal⟩ := ih h (hlinked.drop (Or.inl hmet))
      exact ⟨visited, hseen, List.forall_mem_cons.mpr ⟨fun _ => hseen hmet, hpending⟩, hfinal⟩
  | case4 seen links level path rest hfar hmet hnone ih =>
      obtain ⟨visited, hseen, hpending, hfinal⟩ := ih h (hlinked.drop (Or.inr hnone))
      refine ⟨visited, hseen, List.forall_mem_cons.mpr ⟨fun hsome => ?_, hpending⟩, hfinal⟩
      rw [hnone] at hsome
      cases hsome
  | case5 => cases h
  | case6 seen links level path rest hfar hmet value hvalue place hlocate ih =>
      have hmeans := means_of_locate hlinked.sound hlocate
      have hvisit := hlinked.visit hmet hvalue hmeans
      have hparts : (((root.partPaths place).map (level + 1, ·)) ++ rest).map Prod.snd =
          root.partPaths place ++ rest.map Prod.snd := by
        simp [Function.comp_def]
      obtain ⟨visited, hseen, hpending, hfinal⟩ := ih h (by rwa [hparts])
      obtain ⟨hpath, hseen⟩ := List.cons_subset.mp hseen
      refine ⟨visited, hseen, List.forall_mem_cons.mpr ⟨fun _ => hpath, ?_⟩, hfinal⟩
      intro other hother
      exact hpending other (List.mem_append_right _ hother)

end Json

end CatalogClient
