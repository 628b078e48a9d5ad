/-
# The moves of a walk

Registry and project change in two ways only: the file of a type is opened, which takes a new name
and adds an empty file of that name, and an opened file is finished, which changes what it holds but
not what it is called. Every walk is a sequence of such moves, also one that fails halfway, so what
each move keeps is kept throughout.
-/

import CatalogClient.Proofs.Emission.Refinement
import Mathlib.Logic.Relation

namespace CatalogClient

namespace Emission

variable {env : Environment}

/-- One change of the state. -/
inductive Move : Emission → Emission → Prop
  | noted {emission next : Emission} (registry : next.registry = emission.registry)
      (project : next.project = emission.project) : Move emission next
  | opened {emission next : Emission} {type : TypeRef}
      (opened : emission.opened? type = some next) : Move emission next
  | finished {emission next : Emission} {name : String} {change : SourceFile → SourceFile}
      (registry : next.registry = emission.registry)
      (project : next.project = emission.project.changeLastFile name change)
      (keepsName : ∀ file, (change file).name = file.name) : Move emission next

/-- A sequence of changes. -/
abbrev Moves : Emission → Emission → Prop :=
  Relation.ReflTransGen Move

theorem move_notes (emission : Emission) (log : Log) : Move emission (emission.notes log) :=
  .noted rfl rfl

theorem move_noteCollision (emission : Emission) (type : TypeRef) :
    Move emission (emission.noteCollision type) :=
  .noted (registry_noteCollision emission type) (project_noteCollision emission type)

theorem move_noteUndeclared (emission : Emission) (type : TypeRef)
    (declaration : Option Declaration) :
    Move emission (emission.noteUndeclared type declaration) :=
  .noted (registry_noteUndeclared emission type declaration)
    (project_noteUndeclared emission type declaration)

theorem move_finishEnumeration (emission : Emission) (type : TypeRef) (constants : List String) :
    Move emission (emission.finishEnumeration type constants) :=
  .finished rfl rfl fun _ => rfl

theorem move_finishInterface (emission : Emission) (type : TypeRef)
    (declaration : Option Declaration) (members : List Argument) (imports : List String) :
    Move emission (emission.finishInterface type declaration members imports) := by
  refine .finished rfl rfl fun file => ?_
  rw [SourceFile.foldl_addImport]
  rfl

mutual

theorem EmitsAll.moves {start next : Emission} {types : List TypeRef}
    {outcome : Except Rejection Unit} (h : EmitsAll env start types next outcome) :
    Moves start next := by
  match h with
  | .nil => exact .refl
  | .stop first => exact first.moves
  | .cons first others => exact first.moves.trans others.moves

theorem Emits.moves {start next : Emission} {type : TypeRef}
    {outcome : Except Rejection (Option String)} (h : Emits env start type next outcome) :
    Moves start next := by
  match h with
  | .passed plain => exact .refl
  | .taken declared closed => exact .single (move_noteCollision start type)
  | .enumeration kind opened =>
      exact .tail (.single (.opened opened)) (move_finishEnumeration _ type _)
  | .undeclared kind opened absent =>
      exact .tail (.tail (.single (.opened opened)) (move_noteUndeclared _ type none))
        (move_finishInterface _ type none [] [])
  | .unfinished kind opened found members => exact .head (.opened opened) members.moves
  | .interface kind opened found members =>
      exact .head (.opened opened) (.tail members.moves (move_finishInterface _ type _ _ _))

theorem Follows.moves {start next : Emission} {owner : String} {fields : List Field}
    {members : List Argument} {imports : List String}
    {outcome : Except Rejection (List Argument × List String)}
    (h : Follows env start owner fields members imports next outcome) :
    Moves start next := by
  match h with
  | .done => exact .refl
  | .unresolved resolved => exact .single (move_notes start _)
  | .blocked resolved below => exact .head (move_notes start _) below.moves
  | .field resolved below others =>
      exact .head (move_notes start _) (below.moves.trans others.moves)

end

/-- Registry and project are in step: the files are those of the taken names, in order, and no name
is taken twice. -/
structure InStep (emission : Emission) : Prop where
  fileNames : emission.project.fileNames = emission.registry.taken.map fileName
  nodup : emission.registry.taken.Nodup

theorem inStep_empty : InStep {} :=
  ⟨rfl, List.nodup_nil⟩

theorem Move.inStep {emission next : Emission} (h : Move emission next)
    (hstep : InStep emission) : InStep next := by
  obtain ⟨hnames, hnodup⟩ := hstep
  cases h with
  | noted hregistry hproject => exact ⟨by rw [hregistry, hproject, hnames], by rwa [hregistry]⟩
  | opened hopened =>
      obtain ⟨hfresh, htaken⟩ := taken_of_opened? hopened
      obtain ⟨-, -, -, hfiles⟩ := opened?_eq_some hopened
      refine ⟨?_, ?_⟩
      · rw [Project.fileNames, hfiles, List.map_append, htaken, List.map_append]
        rw [← hnames]
        rfl
      · rw [htaken]
        refine List.nodup_append.mpr ⟨hnodup, by simp, fun old hold new hnew => ?_⟩
        rw [List.mem_singleton.mp hnew]
        exact ne_of_mem_of_not_mem hold hfresh
  | finished hregistry hproject hkeeps =>
      refine ⟨?_, by rwa [hregistry]⟩
      rw [hproject, Project.fileNames_changeLastFile _ _ hkeeps, hregistry, hnames]

/-- Entries of the registry are only added, and only at its end. -/
theorem Move.entries_grow {emission next : Emission} (h : Move emission next) :
    emission.registry.entries <+: next.registry.entries := by
  cases h with
  | noted hregistry hproject => exact hregistry ▸ List.prefix_refl _
  | opened hopened =>
      obtain ⟨-, hentries, -, -⟩ := opened?_eq_some hopened
      exact ⟨_, hentries.symm⟩
  | finished hregistry hproject hkeeps => exact hregistry ▸ List.prefix_refl _

theorem Moves.inStep {emission next : Emission} (h : Moves emission next)
    (hstep : InStep emission) : InStep next := by
  induction h with
  | refl => exact hstep
  | tail _ hmove ih => exact hmove.inStep ih

theorem Moves.entries_grow {emission next : Emission} (h : Moves emission next) :
    emission.registry.entries <+: next.registry.entries := by
  induction h with
  | refl => exact List.prefix_refl _
  | tail _ hmove ih => exact ih.trans hmove.entries_grow

end Emission

namespace Registry

theorem taken_grow {registry next : Registry} (h : registry.entries <+: next.entries) :
    registry.taken <+: next.taken :=
  h.map Prod.fst

/-- Every taken name has an origin. -/
theorem originOf_of_mem_taken {registry : Registry} {name : String}
    (htaken : name ∈ registry.taken) : ∃ origin, registry.originOf name = some origin := by
  obtain ⟨entry, hentry, rfl⟩ := List.mem_map.mp htaken
  apply Option.isSome_iff_exists.mp
  exact List.lookup_isSome_iff.mpr ⟨entry, hentry, by simp⟩

/-- An origin stays as it is when entries are added after it. -/
theorem originOf_of_grow {registry next : Registry} (h : registry.entries <+: next.entries)
    {name : String} (htaken : name ∈ registry.taken) :
    next.originOf name = registry.originOf name := by
  obtain ⟨added, hadded⟩ := h
  obtain ⟨origin, horigin⟩ := originOf_of_mem_taken htaken
  unfold originOf Keyed.get? at *
  rw [← hadded, List.lookup_append, horigin]
  rfl

end Registry

end CatalogClient
