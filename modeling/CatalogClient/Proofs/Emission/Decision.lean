/-
# The rules decide a walk

A walk is a function, and its rules describe this function and nothing else: from every state, every
list of types leads to one state with one outcome. So a walk always ends, and whatever is shown of
the rules is shown of the one thing that a walk does.
-/

import CatalogClient.Proofs.Emission.Run

namespace CatalogClient

/-- What an attempt comes to: the state that it leaves and its outcome. -/
def Attempt.result {start : Emission} {α : Type} (attempt : Attempt start α) :
    Emission × Except Rejection α :=
  (attempt.emission, attempt.outcome)

namespace Emission

variable {env : Environment}

section Equations

/-- The recursion of a walk through a list, with its termination measure out of sight. -/
theorem result_emitAll_cons (start : Emission) (type : TypeRef) (rest : List TypeRef) :
    (start.emitAll env (type :: rest)).result =
      match (start.ensure env type).result with
      | (next, .error rejection) => (next, .error rejection)
      | (next, .ok _) => (next.emitAll env rest).result := by
  rw [emitAll.eq_def]
  simp only
  split
  · next rejection herror =>
      have houtcome : (start.ensure env type).outcome = .error rejection := herror
      simp only [Attempt.result, houtcome]
      rfl
  · next file hok =>
      have houtcome : (start.ensure env type).outcome = .ok file := hok
      simp only [Attempt.result, houtcome]
      rfl

theorem result_emitEnumeration (start : Emission) (type : TypeRef) :
    (start.emitEnumeration env type).result =
      match start.opened? type with
      | none => (start.noteCollision type, .ok none)
      | some next =>
          (next.finishEnumeration type
            (((env.declarations.find? type).map Declaration.constants).getD []),
            .ok (some (fileName type.simpleName))) := by
  unfold emitEnumeration
  split <;> simp_all [Attempt.result]

theorem result_emitInterface (start : Emission) (type : TypeRef) :
    (start.emitInterface env type).result =
      match start.opened? type with
      | none => (start.noteCollision type, .ok none)
      | some next =>
          match env.declarations.find? type with
          | none => ((next.noteUndeclared type none).finishInterface type none [] [],
              .ok (some (fileName type.simpleName)))
          | some declaration =>
              match
                (next.emitMembers env type.simpleName declaration.visibleFields [] []).result
              with
              | (last, .error rejection) => (last, .error rejection)
              | (last, .ok (members, imports)) =>
                  (last.finishInterface type (some declaration) members imports,
                    .ok (some (fileName type.simpleName))) := by
  rw [emitInterface.eq_def]
  split
  · simp_all [Attempt.result]
  · split
    · simp_all [Attempt.result]
    · simp only
      split <;> simp_all [Attempt.result]

theorem result_emitMembers_cons (start : Emission) (owner : String) (field : Field)
    (rest : List Field) (members : List Argument) (imports : List String) :
    (start.emitMembers env owner (field :: rest) members imports).result =
      match (field.type.resolve env).outcome with
      | .error rejection => (start.notes (field.type.resolve env).log, .error rejection)
      | .ok target =>
          match
            ((start.notes (field.type.resolve env).log).emitAll env target.discovered).result
          with
          | (next, .error rejection) => (next, .error rejection)
          | (next, .ok ()) =>
              (next.emitMembers env owner rest
                (members ++ [{ name := field.name, type := some target.expression }])
                ((target.importNames (some owner)).foldl addOnce imports)).result := by
  rw [emitMembers.eq_def]
  simp only
  split
  · simp_all [Attempt.result]
  · split <;> simp_all [Attempt.result]

end Equations

mutual

/-- A walk does what its rules say. -/
theorem EmitsAll.result_eq {start next : Emission} {types : List TypeRef}
    {outcome : Except Rejection Unit} (h : EmitsAll env start types next outcome) :
    (start.emitAll env types).result = (next, outcome) := by
  match h with
  | .nil => rw [emitAll]; rfl
  | .stop first => rw [result_emitAll_cons, first.result_eq]
  | .cons first others => rw [result_emitAll_cons, first.result_eq]; exact others.result_eq

theorem Emits.result_eq {start next : Emission} {type : TypeRef}
    {outcome : Except Rejection (Option String)} (h : Emits env start type next outcome) :
    (start.ensure env type).result = (next, outcome) := by
  match h with
  | .passed plain =>
      unfold ensure
      split
      · next hkind => simp [TypeRef.isDeclared, hkind] at plain
      · next hkind => simp [TypeRef.isDeclared, hkind] at plain
      · rfl
  | .taken declared closed =>
      unfold ensure
      split
      · rw [result_emitInterface, closed]
      · rw [result_emitEnumeration, closed]
      · next hcomposite henumeration =>
          rcases (by simpa [TypeRef.isDeclared] using declared) with hkind | hkind
          · exact absurd hkind hcomposite
          · exact absurd hkind henumeration
  | .enumeration kind opened =>
      simp only [ensure, kind]
      rw [result_emitEnumeration, opened]
  | .undeclared kind opened absent =>
      simp only [ensure, kind]
      rw [result_emitInterface, opened, absent]
  | .unfinished kind opened found members =>
      simp only [ensure, kind]
      rw [result_emitInterface, opened, found]
      simp only [members.result_eq]
  | .interface kind opened found members =>
      simp only [ensure, kind]
      rw [result_emitInterface, opened, found]
      simp only [members.result_eq]

theorem Follows.result_eq {start next : Emission} {owner : String} {fields : List Field}
    {members : List Argument} {imports : List String}
    {outcome : Except Rejection (List Argument × List String)}
    (h : Follows env start owner fields members imports next outcome) :
    (start.emitMembers env owner fields members imports).result = (next, outcome) := by
  match h with
  | .done => rw [emitMembers]; rfl
  | .unresolved resolved => rw [result_emitMembers_cons, resolved]
  | .blocked resolved below =>
      rw [result_emitMembers_cons, resolved]
      simp only [below.result_eq]
  | .field resolved below others =>
      rw [result_emitMembers_cons, resolved]
      simp only [below.result_eq]
      exact others.result_eq

end

/-- The rules of a walk are those of a function: they hold of what the walk does and of nothing
else. -/
theorem emitsAll_iff {start next : Emission} {types : List TypeRef}
    {outcome : Except Rejection Unit} :
    EmitsAll env start types next outcome ↔ Emitting.emit env types start = (next, outcome) := by
  constructor
  · exact EmitsAll.result_eq
  · exact Emitting.emits_of_emit

end Emission

namespace EmissionStep

variable {env : Environment}

/-- What a step may do, as rules: it maps a type that does not resolve, it maps a type and emits
what the type leads to, or it emits a type by itself. -/
inductive Performs (env : Environment) (start : Emission) :
    EmissionStep → Emission → Except Rejection Unit → Prop
  | unresolved {type : TypeRef} {rejection : Rejection}
      (resolved : (type.resolve env).outcome = .error rejection) :
      Performs env start (.map type) (start.notes (type.resolve env).log) (.error rejection)
  | map {type : TypeRef} {target : Target} {next : Emission} {outcome : Except Rejection Unit}
      (resolved : (type.resolve env).outcome = .ok target)
      (below : Emission.EmitsAll env (start.notes (type.resolve env).log) target.discovered next
        outcome) :
      Performs env start (.map type) next outcome
  | ensure {type : TypeRef} {next : Emission} {outcome : Except Rejection Unit}
      (emitted : Emission.EmitsAll env start [type] next outcome) :
      Performs env start (.ensure type) next outcome

theorem performs_iff {start next : Emission} {step : EmissionStep}
    {outcome : Except Rejection Unit} :
    step.Performs env start next outcome ↔ step.perform env start = (next, outcome) := by
  cases step with
  | ensure type =>
      constructor
      · rintro ⟨⟩
        next hemitted => exact Emission.emitsAll_iff.mp hemitted
      · intro h
        exact .ensure (Emission.emitsAll_iff.mpr h)
  | map type =>
      rcases hmap : Emitting.map env type start with ⟨state, result⟩
      rw [perform, hmap]
      rcases Emitting.map_cases hmap with
        ⟨rejection, hrejected, rfl, rfl⟩ | ⟨target, below, htarget, rfl, hemits⟩
      · constructor
        · rintro (hresolved | hresolved)
          · cases hrejected.symm.trans hresolved
            rfl
          · cases hrejected.symm.trans hresolved
        · intro h
          cases h
          exact .unresolved hrejected
      · have hunit : (below.map fun _ => target).map (fun _ => ()) = below := by
          cases below <;> rfl
        constructor
        · rintro (hresolved | ⟨hresolved, hbelow⟩)
          · cases htarget.symm.trans hresolved
          · cases htarget.symm.trans hresolved
            have hsame := (Emission.emitsAll_iff.mp hemits).symm.trans
              (Emission.emitsAll_iff.mp hbelow)
            obtain ⟨rfl, rfl⟩ := Prod.mk.inj hsame
            rw [hunit]
        · intro h
          rw [hunit] at h
          cases h
          exact .map htarget hemits

end EmissionStep

end CatalogClient

