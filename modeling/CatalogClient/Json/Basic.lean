/-
# Document values

A document is a value made of nulls, truth values, numbers, texts, lists and objects. The members
of an object are ordered. Every part of a document is found by the steps that lead to it from the
top.
-/

import CatalogClient.Keyed
import CatalogClient.Json.Number

namespace CatalogClient

/-- A value of a document. -/
inductive Json
  | null
  | bool (value : Bool)
  | number (value : Number)
  | string (value : String)
  | array (items : List Json)
  | object (members : List (String × Json))
  deriving Repr, Inhabited

/-- One step from a value to a part of it. -/
inductive Step
  | key (name : String)
  | index (position : Nat)
  deriving DecidableEq, Repr

/-- The steps from the top of a document to one of its parts. -/
abbrev Path := List Step

namespace Json

/-- The part of a value that one step leads to. -/
def child? : Json → Step → Option Json
  | .array items, .index position => items[position]?
  | .object members, .key name => members.lookup name
  | _, _ => none

/-- The part of a value at the end of a path. -/
def at? : Json → Path → Option Json
  | value, [] => some value
  | value, step :: rest => (value.child? step).bind (at? · rest)

/-- The steps that lead to the direct parts of a value, in order. -/
def steps : Json → List Step
  | .array items => (List.range items.length).map .index
  | .object members => members.map fun member => .key member.1
  | _ => []

mutual

/-- The paths to all parts of a value, the value itself first. -/
def paths : Json → List Path
  | .array items => [] :: itemPaths 0 items
  | .object members => [] :: memberPaths members
  | _ => [[]]

/-- The paths to all parts of the items that follow a position of a list. -/
def itemPaths (position : Nat) : List Json → List Path
  | [] => []
  | item :: rest => item.paths.map (.index position :: ·) ++ itemPaths (position + 1) rest

/-- The paths to all parts of the members of an object. -/
def memberPaths : List (String × Json) → List Path
  | [] => []
  | (name, value) :: rest => value.paths.map (.key name :: ·) ++ memberPaths rest

end

theorem mem_itemPaths {items : List Json} {offset position : Nat} {value : Json} {path : Path}
    (h : items[position]? = some value) (m : path ∈ value.paths) :
    Step.index (offset + position) :: path ∈ itemPaths offset items := by
  induction items generalizing offset position with
  | nil => simp at h
  | cons item rest ih =>
      rw [itemPaths, List.mem_append]
      cases position with
      | zero =>
          obtain rfl : item = value := by simpa using h
          exact .inl (List.mem_map.mpr ⟨path, m, by simp⟩)
      | succ position =>
          refine .inr ?_
          have := @ih (offset + 1) position (by simpa using h)
          rwa [Nat.add_right_comm, Nat.add_assoc] at this

theorem mem_memberPaths {members : List (String × Json)} {name : String} {value : Json}
    {path : Path}
    (h : members.lookup name = some value) (m : path ∈ value.paths) :
    Step.key name :: path ∈ memberPaths members := by
  induction members with
  | nil => simp at h
  | cons member rest ih =>
      obtain ⟨first, part⟩ := member
      rw [memberPaths, List.mem_append]
      by_cases same : name = first
      · subst same
        obtain rfl : part = value := by simpa using h
        exact .inl (List.mem_map.mpr ⟨path, m, rfl⟩)
      · exact .inr (ih (by simpa [List.lookup_cons, beq_false_of_ne same] using h))

/-- Every path that leads somewhere is listed. -/
theorem mem_paths_of_at? {value part : Json} {path : Path} (h : value.at? path = some part) :
    path ∈ value.paths := by
  induction path generalizing value with
  | nil => cases value <;> simp [paths]
  | cons step rest ih =>
      obtain ⟨next, found, reached⟩ := Option.bind_eq_some_iff.mp h
      have inside := ih reached
      cases value with
      | array items =>
          cases step with
          | index position =>
              rw [paths]
              have listed := @mem_itemPaths _ 0 _ _ _ found inside
              exact List.mem_cons_of_mem _ (by simpa using listed)
          | key name => simp [child?] at found
      | object members =>
          cases step with
          | index position => simp [child?] at found
          | key name =>
              rw [paths]
              exact List.mem_cons_of_mem _ (mem_memberPaths found inside)
      | null => simp [child?] at found
      | bool value => simp [child?] at found
      | number value => simp [child?] at found
      | string value => simp [child?] at found

/-- The value under a key of an object. -/
def get? (value : Json) (name : String) : Option Json :=
  value.child? (.key name)

end Json

end CatalogClient
