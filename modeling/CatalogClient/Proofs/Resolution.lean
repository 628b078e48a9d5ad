/-
# What a resolved type leads to

Resolving a type yields the declared types of its expression and the types that have to be
generated for it. The latter are enumerations and composite types of scanned packages, and the
former are among them: a file never imports a type that nobody asks to be generated. The argument
follows the rules of resolution, since a target is joined from the targets of its parts.
-/

import CatalogClient.Emission.Basic
import CatalogClient.Proofs.Resolution.Rules

namespace CatalogClient

namespace Target

/-- What a target has to have generated is declared, its composite types are of scanned packages,
and it includes every declared type of the expression. -/
structure Grounded (env : Environment) (target : Target) : Prop where
  declared : ∀ type ∈ target.discovered, type.isDeclared = true
  admitted : ∀ type ∈ target.discovered, type.kind = .composite →
    env.scope.admits type.package = true
  covers : ∀ type ∈ target.contributing, type.isDeclared = true → type ∈ target.discovered

variable {env : Environment}

/-- A target without any types is grounded. -/
theorem Grounded.bare (expression : Expression) : Grounded env { expression } where
  declared := by simp
  admitted := by simp
  covers := by simp

/-- A declared type that stands for itself. -/
theorem Grounded.single (expression : Expression) {type : TypeRef}
    (hdeclared : type.isDeclared = true)
    (hadmitted : type.kind = .composite → env.scope.admits type.package = true) :
    Grounded env { expression, contributing := [type], discovered := [type] } where
  declared := by simpa using hdeclared
  admitted := by simpa using hadmitted
  covers := by simp

/-- The join of grounded targets is grounded. -/
theorem Grounded.join {targets : List Target} (h : ∀ target ∈ targets, target.Grounded env)
    (wrapper : String) : (Target.join targets wrapper).Grounded env where
  declared := by
    intro type hmem
    obtain ⟨target, htarget, hfound⟩ := List.mem_flatMap.mp hmem
    exact (h target htarget).declared type hfound
  admitted := by
    intro type hmem
    obtain ⟨target, htarget, hfound⟩ := List.mem_flatMap.mp hmem
    exact (h target htarget).admitted type hfound
  covers := by
    intro type hmem hdeclared
    obtain ⟨target, htarget, hfound⟩ := List.mem_flatMap.mp hmem
    exact List.mem_flatMap.mpr ⟨target, htarget, (h target htarget).covers type hfound hdeclared⟩

end Target

namespace TypeRef

variable {env : Environment}

/-- A resolved type leads to grounded targets only, and to named types if it is well-formed. -/
def LeadsTo (env : Environment) (type : TypeRef) (target : Target) : Prop :=
  target.Grounded env ∧ (type.WellFormed → ∀ found ∈ target.discovered, found.hasName = true)

theorem LeadsTo.bare (type : TypeRef) (expression : Expression) :
    type.LeadsTo env { expression } :=
  ⟨.bare expression, by simp⟩

theorem LeadsTo.self {type : TypeRef} (expression : Expression) (hdeclared : type.isDeclared = true)
    (hadmitted : type.kind = .composite → env.scope.admits type.package = true) :
    type.LeadsTo env { expression, contributing := [type], discovered := [type] } := by
  refine ⟨.single expression hdeclared hadmitted, fun hwell found hmem => ?_⟩
  rw [List.mem_singleton.mp hmem]
  exact hwell.hasName hdeclared

/-- A type that is made of others leads to what they lead to. -/
theorem LeadsTo.join {type : TypeRef} {parts : List TypeRef} {targets : List Target}
    (h : ∀ target ∈ targets, ∃ part ∈ parts, part.LeadsTo env target)
    (hparts : type.WellFormed → ∀ part ∈ parts, part.WellFormed) (wrapper : String) :
    type.LeadsTo env (Target.join targets wrapper) := by
  refine ⟨.join (fun target hmem => ?_) wrapper, fun hwell found hmem => ?_⟩
  · obtain ⟨part, -, hground, -⟩ := h target hmem
    exact hground
  · obtain ⟨target, htarget, hfound⟩ := List.mem_flatMap.mp hmem
    obtain ⟨part, hpart, -, hnames⟩ := h target htarget
    exact hnames (hparts hwell part hpart) found hfound

/-- A scalar type contributes itself, but it has no declaration. -/
theorem LeadsTo.scalar {type : TypeRef} (hscalar : type.isDeclared = false)
    (expression : Expression) : type.LeadsTo env { expression, contributing := [type] } :=
  ⟨⟨by simp, by simp, by simp [hscalar]⟩, by simp⟩

/-- The bounds of a wildcard are only discovered. -/
theorem LeadsTo.discoverOnly {type : TypeRef} {target : Target} (h : type.LeadsTo env target)
    (expression : Expression) :
    type.LeadsTo env { expression, discovered := target.discovered } :=
  ⟨⟨h.1.declared, h.1.admitted, by simp⟩, h.2⟩

/-- A generic type also leads to its raw type, which has to have a name even where the reference to
it has not been validated. -/
theorem LeadsTo.withRaw {type raw : TypeRef} {targets : List Target}
    (h : type.LeadsTo env (Target.join targets raw.simpleName))
    (hadmits : env.scope.admits raw.package = true) (hnamed : raw.hasName = true) :
    type.LeadsTo env
      { Target.join targets raw.simpleName with
        discovered := .named .composite raw.name raw.package ::
          targets.flatMap Target.discovered } := by
  obtain ⟨hground, hnames⟩ := h
  refine ⟨⟨?_, ?_, ?_⟩, fun hwell => ?_⟩
  · exact List.forall_mem_cons.mpr ⟨rfl, hground.declared⟩
  · exact List.forall_mem_cons.mpr ⟨fun _ => hadmits, hground.admitted⟩
  · intro found hmem hdeclared
    exact List.mem_cons_of_mem _ (hground.covers found hmem hdeclared)
  · exact List.forall_mem_cons.mpr ⟨hnamed, hnames hwell⟩

mutual

theorem ResolvesTo.leadsTo : {type : TypeRef} → {target : Target} →
    ResolvesTo env type target → type.LeadsTo env target
  | type, _, .scalar hkind => by
      have hscalar : type.isDeclared = false := by
        unfold isDeclared
        cases hsort : type.kind with
        | enumeration | composite =>
            rw [hsort] at hkind
            cases hkind
        | _ => rfl
      exact .scalar hscalar _
  | _, _, .enumeration hkind =>
      .self _ (by simp [isDeclared, hkind]) (by simp [hkind])
  | _, _, .composite hkind hadmits =>
      .self _ (by simp [isDeclared, hkind]) fun _ => hadmits
  | _, _, .wrapped hwraps hbelow =>
      .join hbelow.leadTo (fun hwell => (hwell.of_wraps hwraps).2) _
  | _, _, .generic _ _ hadmits hnamed hbelow =>
      (LeadsTo.join hbelow.leadTo WellFormed.arguments _).withRaw hadmits hnamed
  | _, _, .typeVariable _ => .bare _ _
  | _, _, .wildcard _ hbelow =>
      (LeadsTo.join hbelow.leadTo WellFormed.bounds "").discoverOnly _
  | _, _, .any _ => .bare _ _

theorem ResolveTo.leadTo : {types : List TypeRef} → {targets : List Target} →
    ResolveTo env types targets →
      ∀ target ∈ targets, ∃ type ∈ types, type.LeadsTo env target
  | _, _, .nil => List.forall_mem_nil _
  | _, _, .cons hfirst hothers => by
      refine List.forall_mem_cons.mpr ⟨⟨_, List.mem_cons_self, hfirst.leadsTo⟩, ?_⟩
      intro other hmem
      obtain ⟨part, hpart, hleads⟩ := hothers.leadTo other hmem
      exact ⟨part, List.mem_cons_of_mem _ hpart, hleads⟩

end

theorem leadsTo_of_resolve (type : TypeRef) (target : Target)
    (h : (type.resolve env).outcome = .ok target) : type.LeadsTo env target :=
  (resolvesTo_of_resolve type target h).leadsTo

end TypeRef

end CatalogClient
