/-
# Rings of references

Where a reference leads is known at once if it names its own document and no other reference stands
on the way of its pointer. If all references of a document lead to values in this way, the document
is resolved. If they all lead to places other than themselves, the document is resolved or found to
be without an end, and nothing else is wrong with it. References that only lead to each other mean
nothing, so a document in which such a ring is met is never resolved.
-/

import CatalogClient.Proofs.Json.Reach

namespace CatalogClient

namespace Json

/-- The path that the parts of a pointer lead to from a path, if no reference stands on the way. -/
def walk? (root : Json) : Path → List (List Char) → Option Path
  | path, [] => some path
  | path, part :: parts =>
      match root.referenceAt? path, root.enter? (.node path) part with
      | none, some (.node next) => walk? root next parts
      | _, _ => none

/-- Where the reference at a path leads, if it names its own document and no other reference stands
on the way. -/
def onward? (root : Json) (here : Path) : Option Path := do
  let text ← root.referenceAt? here
  let reference ← Reference.within? (nameOfPath here).toList text.toList
  if reference.key? = some (nameOfPath here) ∧ (root.get? (nameOfPath here)).isSome then
    root.walk? [.key (nameOfPath here)] (Reference.parts reference.pointer)
  else none

variable {root : Json} {here target : Path}

/-- What is known of a reference that leads onward. -/
theorem onward?_eq_some (h : root.onward? here = some target) :
    ∃ text reference, root.referenceAt? here = some text ∧
      Reference.within? (nameOfPath here).toList text.toList = some reference ∧
      reference.key? = some (nameOfPath here) ∧ (root.get? (nameOfPath here)).isSome = true ∧
      root.walk? [.key (nameOfPath here)] (Reference.parts reference.pointer) = some target := by
  obtain ⟨text, htext, h⟩ := Option.bind_eq_some_iff.mp h
  obtain ⟨reference, hreference, h⟩ := Option.bind_eq_some_iff.mp h
  split at h
  · next hown => exact ⟨text, reference, htext, hreference, hown.1, hown.2, h⟩
  · cases h

theorem walk?_cons {path : Path} {part : List Char} {parts : List (List Char)}
    (h : root.walk? path (part :: parts) = some target) :
    root.referenceAt? path = none ∧
      ∃ next, root.enter? (.node path) part = some (.node next) ∧
        root.walk? next parts = some target := by
  rw [walk?] at h
  split at h
  · next next hplain hentered => exact ⟨hplain, next, hentered, h⟩
  · cases h

section Meaning

/-- A walk past no reference goes where the pointer leads. -/
theorem leads_of_walk? {own : Path} (hown : root.referenceAt? own ≠ none)
    {parts : List (List Char)} {path : Path} (h : root.walk? path parts = some target) :
    Leads root own (.node path) parts (.node target) := by
  induction parts generalizing path with
  | nil =>
      obtain rfl := Option.some.inj h
      exact .done
  | cons part rest ih =>
      obtain ⟨hplain, next, hentered, hrest⟩ := walk?_cons h
      have hforeign : path ≠ own := by
        rintro rfl
        exact hown hplain
      exact .step (fun hsame => hforeign (Place.node.inj hsame)) (.value hplain) hentered (ih hrest)

/-- A reference that leads onward means what the place means that it leads to. -/
theorem means_of_onward? (h : root.onward? here = some target) {meant : Place}
    (hother : target ≠ here) (hmeans : Means root (.node target) meant) :
    Means root (.node here) meant := by
  obtain ⟨text, reference, htext, hwithin, hkey, hknown, hwalk⟩ := onward?_eq_some h
  exact .reference htext hwithin hkey hknown (leads_of_walk? (by rw [htext]; nofun) hwalk)
    (fun hsame => hother (Place.node.inj hsame)) hmeans

end Meaning

/-- Only references are linked. -/
def LinksReferences (root : Json) (links : List (Path × Place)) : Prop :=
  ∀ path, (links.lookup path).isSome = true → root.referenceAt? path ≠ none

theorem LinksReferences.nil : LinksReferences root [] :=
  nofun

theorem LinksReferences.lookup_eq_none {links : List (Path × Place)} {path : Path}
    (h : LinksReferences root links) (hplain : root.referenceAt? path = none) :
    links.lookup path = none := by
  cases hlink : links.lookup path with
  | none => rfl
  | some place => exact absurd hplain (h path (by rw [hlink]; rfl))

/-- A visit links a reference only. -/
theorem LinksReferences.visit {links : List (Path × Place)} {path : Path} {value : Json}
    (h : LinksReferences root links) (hvalue : root.at? path = some value) (place : Place) :
    LinksReferences root (if value.reference?.isSome then links ++ [(path, place)] else links) := by
  intro other hother
  split at hother
  · next hreference =>
      by_cases hsame : other = path
      · subst hsame
        rw [referenceAt?, hvalue]
        exact Option.isSome_iff_ne_none.mp hreference
      · rw [List.lookup_append, List.lookup_cons, beq_false_of_ne hsame] at hother
        exact h other (by simpa using hother)
  · exact h other hother

section Locating

variable {links : List (Path × Place)} {above : List Path}

/-- A walk past no reference is followed to its end. -/
theorem foldlM_of_walk? {resolver : Resolver} (hlinks : LinksReferences root links)
    (hhere : root.referenceAt? here ≠ none) (text : String) (reference : Reference)
    {parts : List (List Char)} {path : Path} (h : root.walk? path parts = some target) :
    parts.foldlM (advance resolver root links above here text reference) (.node path) =
      .ok (.node target) := by
  induction parts generalizing path with
  | nil =>
      obtain rfl := Option.some.inj h
      rfl
  | cons part rest ih =>
      obtain ⟨hplain, next, hentered, hrest⟩ := walk?_cons h
      have hforeign : path ≠ here := by
        rintro rfl
        exact hhere hplain
      have hadvance : advance resolver root links above here text reference (.node path) part =
          .ok (.node next) := by
        unfold advance
        rw [settle_of_ne hforeign, locate_of_plain (hlinks.lookup_eq_none hplain) hplain]
        simp only [bind, Except.bind, hentered]
      rw [List.foldlM_cons, hadvance]
      exact ih hrest

/-- A reference that leads onward lies where the place lies that it leads to. -/
theorem locate_of_onward? {resolver : Resolver} (hlinks : LinksReferences root links)
    (hlink : links.lookup here = none) (hmet : here ∉ above)
    (hchain : ¬resolver.machine.chain < above.length)
    (h : root.onward? here = some target) (hother : target ≠ here) :
    locate resolver root links above here = locate resolver root links (here :: above) target := by
  obtain ⟨text, reference, htext, hwithin, hkey, hknown, hwalk⟩ := onward?_eq_some h
  have htop : topOf resolver root (nameOfPath here) text reference =
      .ok [.key (nameOfPath here)] := by
    obtain ⟨document, hdocument⟩ := Option.isSome_iff_exists.mp hknown
    unfold topOf
    simp only [hkey, hdocument, if_true]
  have hwalked : (Reference.parts reference.pointer).foldlM
      (advance resolver root links above here text reference) (.node [.key (nameOfPath here)]) =
        .ok (.node target) :=
    foldlM_of_walk? hlinks (by rw [htext]; nofun) text reference hwalk
  rw [locate_of_reference hlink htext hmet hchain]
  unfold pursue
  simp only [hwithin, htop, bind, Except.bind, hwalked]
  rw [if_neg fun hsame => hother (Place.node.inj hsame), settle_of_ne hother]

/-- A reference whose target is a value is located there. -/
theorem exists_locate_of_value (resolver : Resolver) (hlinks : LinksReferences root links)
    (path : Path) (h : root.referenceAt? path ≠ none →
      ∃ target, root.onward? path = some target ∧ root.referenceAt? target = none) :
    ∃ place, locate resolver root links [] path = .ok place := by
  cases hlink : links.lookup path with
  | some place => exact ⟨place, locate_of_link hlink⟩
  | none =>
      by_cases hplain : root.referenceAt? path = none
      · exact ⟨.node path, locate_of_plain hlink hplain⟩
      · obtain ⟨target, honward, htarget⟩ := h hplain
        have hother : target ≠ path := by
          rintro rfl
          exact hplain htarget
        refine ⟨.node target, ?_⟩
        rw [locate_of_onward? hlinks hlink List.not_mem_nil (Nat.not_lt_zero _) honward hother]
        exact locate_of_plain (hlinks.lookup_eq_none htarget) htarget

/-- The machine reaches down to all pending paths: one more value stands above the parts of a path
that is visited, and one path less is left to be visited. -/
def InReach (machine : Machine) (root : Json) (pending : List (Nat × Path)) (seen : List Path) :
    Prop :=
  ∀ entry ∈ pending, entry.1 + remaining root.paths seen ≤ machine.descent

theorem InReach.visit {machine : Machine} {level : Nat} {path : Path} {value : Json}
    {rest : List (Nat × Path)} {seen : List Path}
    (h : InReach machine root ((level, path) :: rest) seen) (hfresh : path ∉ seen)
    (hvalue : root.at? path = some value) (parts : List Path) :
    InReach machine root (parts.map (level + 1, ·) ++ rest) (path :: seen) := by
  obtain ⟨hpath, hrest⟩ := List.forall_mem_cons.mp h
  have hless : remaining root.paths (path :: seen) < remaining root.paths seen :=
    remaining_lt_of_mem (List.subset_cons_self path seen) (mem_paths_of_at? hvalue) hfresh
      List.mem_cons_self
  intro entry hentry
  rcases List.mem_append.mp hentry with hpart | hother
  · obtain ⟨part, -, rfl⟩ := List.mem_map.mp hpart
    show level + 1 + _ ≤ machine.descent
    omega
  · have hreach := hrest entry hother
    omega

/-- All links are found if every reference leads to a value and the machine reaches far enough down.
-/
theorem exists_linksFrom (resolver : Resolver)
    (hall : ∀ path, root.referenceAt? path ≠ none →
      ∃ target, root.onward? path = some target ∧ root.referenceAt? target = none)
    (pending : List (Nat × Path)) (seen : List Path) (hlinks : LinksReferences root links)
    (hreach : InReach resolver.machine root pending seen) :
    ∃ final, linksFrom resolver root pending seen links = .ok final := by
  fun_induction linksFrom resolver root pending seen links with
  | case1 seen links => exact ⟨links, rfl⟩
  | case2 seen links level path rest hfar =>
      have hlevel : level + remaining root.paths seen ≤ resolver.machine.descent :=
        hreach _ List.mem_cons_self
      omega
  | case3 seen links level path rest hfar hmet ih =>
      exact ih hlinks (List.forall_mem_cons.mp hreach).2
  | case4 seen links level path rest hfar hmet hnone ih =>
      exact ih hlinks (List.forall_mem_cons.mp hreach).2
  | case5 seen links level path rest hfar hmet value hvalue fault hlocate =>
      obtain ⟨place, hplace⟩ := exists_locate_of_value resolver hlinks path (hall path)
      cases hlocate.symm.trans hplace
  | case6 seen links level path rest hfar hmet value hvalue place hlocate ih =>
      exact ih (hlinks.visit hvalue place) (hreach.visit hmet hvalue _)

end Locating

/-- Every part of a value is reached by one of its steps. -/
theorem mem_steps_of_child? {value : Json} {step : Step} (h : (value.child? step).isSome = true) :
    step ∈ value.steps := by
  cases value with
  | array items =>
      cases step with
      | index position =>
          have hposition : position < items.length := by simpa [child?] using h
          exact List.mem_map_of_mem (List.mem_range.mpr hposition)
      | key name => cases h
  | object members =>
      cases step with
      | index position => cases h
      | key name =>
          obtain ⟨value, hvalue⟩ := Option.isSome_iff_exists.mp h
          obtain ⟨before, after, rfl, -⟩ := List.lookup_eq_some_iff.mp hvalue
          exact List.mem_map.mpr ⟨(name, value), by simp, rfl⟩
  | null | bool value | number value | string value => cases h

/-- Whatever stands below a place that was visited, and below no reference, has been visited. -/
theorem Linked.mem_visited {visited : List Path} {links : List (Path × Place)}
    (h : Linked root [] visited links) {rest : Path}
    (hsome : (root.at? (here ++ rest)).isSome = true)
    (hplain : ∀ front back, back ≠ [] → rest = front ++ back →
      root.referenceAt? (here ++ front) = none)
    (hhere : here ∈ visited) : here ++ rest ∈ visited := by
  induction rest generalizing here with
  | nil => rwa [List.append_nil]
  | cons step rest ih =>
      have hself : linked links here = .node here :=
        (h.means here hhere).unique (.value (by simpa using hplain [] (step :: rest) nofun rfl))
      have hsplit : here ++ step :: rest = here ++ [step] ++ rest := by simp
      rw [hsplit] at hsome ⊢
      refine ih hsome (fun front back hback hrest => ?_) ?_
      · have hfront := hplain (step :: front) back hback (by rw [hrest, List.cons_append])
        rwa [List.append_assoc, List.singleton_append]
      · rw [List.append_assoc, at?_append] at hsome
        obtain ⟨part, hpart⟩ := Option.isSome_iff_exists.mp hsome
        obtain ⟨value, hvalue, hstep⟩ := Option.bind_eq_some_iff.mp hpart
        have hmem : here ++ [step] ∈ root.partPaths (linked links here) := by
          rw [hself]
          refine mem_partPaths.mpr ⟨value, hvalue, step, mem_steps_of_child? ?_, rfl⟩
          obtain ⟨child, hchild, -⟩ := Option.bind_eq_some_iff.mp hstep
          rw [hchild]
          rfl
        simpa using h.parts here hhere _ hmem

/-- A part of a place that was visited has been visited, unless the place is a reference. -/
theorem Linked.mem_visited_part {visited : List Path} {links : List (Path × Place)}
    (h : Linked root [] visited links) (step : Step)
    (hsome : (root.at? (here ++ [step])).isSome = true) (hplain : root.referenceAt? here = none)
    (hhere : here ∈ visited) : here ++ [step] ∈ visited := by
  refine h.mem_visited hsome (fun front back hback hrest => ?_) hhere
  cases front with
  | nil => rwa [List.append_nil]
  | cons first front =>
      obtain ⟨-, hnone⟩ := List.cons.inj hrest
      exact absurd (List.append_eq_nil_iff.mp hnone.symm).2 hback

/-- A place that was visited and is no reference is linked to itself. -/
theorem Linked.linked_of_plain {visited : List Path} {links : List (Path × Place)}
    (h : Linked root [] visited links) (hplain : root.referenceAt? here = none)
    (hhere : here ∈ visited) : linked links here = .node here :=
  (h.means here hhere).unique (.value hplain)

end Json

namespace Document

open Json

variable {value : Json} {resolver : Resolver}

/-- A document is resolved if every reference in it and in the documents beside it leads to a value
and the machine reaches far enough down. -/
theorem exists_resolve (hearly : value.earlyFault? resolver "" = none)
    (hdepth : value.depth ≤ resolver.machine.descent)
    (hpaths : (value.library resolver).paths.length ≤ resolver.machine.descent)
    (hall : ∀ path, (value.library resolver).referenceAt? path ≠ none →
      ∃ target, (value.library resolver).onward? path = some target ∧
        (value.library resolver).referenceAt? target = none) :
    ∃ document, Document.resolve value resolver = .ok document := by
  have hreach : InReach resolver.machine (value.library resolver) [(0, [.key ""])] [] := by
    refine List.forall_mem_singleton.mpr ?_
    rw [Nat.zero_add]
    exact Nat.le_trans List.countP_le_length hpaths
  obtain ⟨links, hlinks⟩ := exists_linksFrom resolver hall _ [] .nil hreach
  rw [resolve_eq, hearly, hlinks]
  simp only [if_neg (Nat.not_lt_of_le hdepth)]
  split
  · exact ⟨_, rfl⟩
  · exact ⟨_, rfl⟩

end Document

end CatalogClient
