/-
# Where a walk stops

A walk stops at the first field that does not resolve, and nothing else stops it. The field belongs
to a composite type that the search visits, so a walk can be known to succeed from the search and
the resolutions of single fields, without its states.
-/

import CatalogClient.Proofs.Client.Passes

namespace CatalogClient

variable {env : Environment}

/-- Whether a field of a composite type fails to resolve in some way. -/
def Environment.StopsAt (env : Environment) (rejection : Rejection) (owner : TypeRef) : Prop :=
  owner.kind = .composite ∧ ∃ declaration, env.declarations.find? owner = some declaration ∧
    ∃ field ∈ declaration.visibleFields, (field.type.resolve env).outcome = .error rejection

namespace Emission

mutual

/-- A list of types whose emission fails has led the search to a type with an unresolved field. -/
theorem EmitsAll.stops {start next : Emission} {types : List TypeRef}
    {outcome : Except Rejection Unit} {rejection : Rejection}
    (h : EmitsAll env start types next outcome) (herror : outcome = .error rejection) :
    ∃ owner ∈ env.visits start.registry.taken types, env.StopsAt rejection owner := by
  match h with
  | .nil => cases herror
  | .stop first =>
      obtain rfl := Except.error.inj herror
      obtain ⟨owner, howner, hstops⟩ := first.stops rfl
      refine ⟨owner, ?_, hstops⟩
      rw [← List.singleton_append, Environment.visits_append]
      exact List.mem_append_left _ howner
  | .cons first others =>
      obtain ⟨owner, howner, hstops⟩ := others.stops herror
      rw [(first.extends rfl).taken] at howner
      refine ⟨owner, ?_, hstops⟩
      rw [← List.singleton_append, Environment.visits_append]
      exact List.mem_append_right _ howner

theorem Emits.stops {start next : Emission} {type : TypeRef}
    {outcome : Except Rejection (Option String)} {rejection : Rejection}
    (h : Emits env start type next outcome) (herror : outcome = .error rejection) :
    ∃ owner ∈ env.visits start.registry.taken [type], env.StopsAt rejection owner := by
  match h with
  | .passed _ | .taken _ _ | .enumeration _ _ | .undeclared _ _ _ | .interface _ _ _ _ =>
      cases herror
  | .unfinished kind hopened found members =>
      obtain rfl := Except.error.inj herror
      have hfresh := (opened?_eq_some hopened).1
      rw [Environment.visits_cons_of_fresh [] (by simp [TypeRef.isDeclared, kind]) hfresh,
        Environment.successors_of_find? kind found, ← (taken_of_opened? hopened).2]
      rcases members.stops rfl with ⟨field, hfield, hfailed⟩ | ⟨owner, howner, hstops⟩
      · exact ⟨type, List.mem_cons_self, kind, _, found, field, hfield, hfailed⟩
      · exact ⟨owner, List.mem_append_left _ (List.mem_cons_of_mem _ howner), hstops⟩

theorem Follows.stops {start next : Emission} {owner : String} {fields : List Field}
    {members : List Argument} {imports : List String}
    {outcome : Except Rejection (List Argument × List String)} {rejection : Rejection}
    (h : Follows env start owner fields members imports next outcome)
    (herror : outcome = .error rejection) :
    (∃ field ∈ fields, (field.type.resolve env).outcome = .error rejection) ∨
      ∃ owner ∈ env.visits start.registry.taken (fields.flatMap (Field.discovered env)),
        env.StopsAt rejection owner := by
  match h with
  | .done => cases herror
  | .unresolved resolved =>
      obtain rfl := Except.error.inj herror
      exact Or.inl ⟨_, List.mem_cons_self, resolved⟩
  | .blocked resolved below =>
      obtain rfl := Except.error.inj herror
      obtain ⟨owner, howner, hstops⟩ := below.stops rfl
      refine Or.inr ⟨owner, ?_, hstops⟩
      rw [List.flatMap_cons, Environment.visits_append, discovered_of_resolve resolved]
      exact List.mem_append_left _ howner
  | .field resolved below others =>
      rcases others.stops herror with ⟨field, hfield, hfailed⟩ | ⟨owner, howner, hstops⟩
      · exact Or.inl ⟨field, List.mem_cons_of_mem _ hfield, hfailed⟩
      · rw [(below.extends rfl).taken] at howner
        refine Or.inr ⟨owner, ?_, hstops⟩
        rw [List.flatMap_cons, Environment.visits_append, discovered_of_resolve resolved]
        exact List.mem_append_right _ howner

end

/-- A run of mappings that fails has met a type that does not resolve, or has led the search to a
type with such a field. -/
theorem stops_of_mapAll {start next : Emission} {types : List TypeRef} {rejection : Rejection}
    (h : Catalog.mapAll env types start = (next, .error rejection)) :
    (∃ type ∈ types, (type.resolve env).outcome = .error rejection) ∨
      ∃ owner ∈ env.visits start.registry.taken (types.flatMap (TypeRef.discovered env)),
        env.StopsAt rejection owner := by
  induction types generalizing start with
  | nil => cases h
  | cons type rest ih =>
      unfold Catalog.mapAll at h
      rcases Staged.bind_eq_error_iff.mp h with hfailed | ⟨middle, target, hmapped, h⟩
      · rcases Emitting.map_cases hfailed with
          ⟨reason, hresolve, hsame, -⟩ | ⟨target, below, hresolve, hsame, hbelow⟩
        · obtain rfl := Except.error.inj hsame
          exact Or.inl ⟨type, List.mem_cons_self, hresolve⟩
        · cases below with
          | ok _ => cases hsame
          | error reason =>
              obtain rfl := Except.error.inj hsame
              obtain ⟨owner, howner, hstops⟩ := hbelow.stops rfl
              refine Or.inr ⟨owner, ?_, hstops⟩
              rw [List.flatMap_cons, Environment.visits_append,
                TypeRef.discovered_of_resolve hresolve]
              exact List.mem_append_left _ howner
      · have hperform : (EmissionStep.map type).perform env start = (middle, .ok ()) := by
          rw [EmissionStep.perform, hmapped]
          rfl
        have hextends : Extends env start middle
            (env.visits start.registry.taken (type.discovered env)) := by
          have hstep := EmissionStep.extends_perform (congrArg Prod.snd hperform)
          rw [hperform] at hstep
          exact hstep
        rcases ih h with ⟨found, hmem, hfailed⟩ | ⟨owner, howner, hstops⟩
        · exact Or.inl ⟨found, List.mem_cons_of_mem _ hmem, hfailed⟩
        · rw [hextends.taken] at howner
          refine Or.inr ⟨owner, ?_, hstops⟩
          rw [List.flatMap_cons, Environment.visits_append]
          exact List.mem_append_right _ howner

end Emission

end CatalogClient
