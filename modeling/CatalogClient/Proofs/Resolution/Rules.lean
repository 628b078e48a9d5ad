/-
# The rules of resolution

A server type resolves in one of eight ways, and each of them is stated here as a rule. A type that
is a word of its own, or is left out, has no parts that matter; any other type is put together from
what its parts resolve to. Whatever resolves does so by these rules, so what is shown of the rules
is shown of the client type, however deep it is nested.
-/

import CatalogClient.Proofs.Emission.Nameless

namespace CatalogClient

namespace TypeRef

/-- The wrapper that an array, a map or a collection has in the client, and the types inside. -/
def wrapped? (type : TypeRef) : Option (String × List TypeRef) :=
  match type.kind with
  | .array => type.component.map fun inner => ("Array", [inner])
  | .parameterized =>
      match type.rawKind with
      | some .map => some ("Map", type.arguments)
      | some .collection => some ("Array", type.arguments)
      | _ => none
  | _ => none

/-- A parameterized type that goes by the name of its raw type. -/
structure IsGeneric (type : TypeRef) : Prop where
  kind : type.kind = .parameterized
  noMap : type.rawKind ≠ some .map
  noCollection : type.rawKind ≠ some .collection

/-- The types that are left out of the client, where the type of all values stands for them: unknown
types, and declared or generic types out of the scanned packages. So is an array of nothing, which
validation lets nobody ask for. -/
inductive LeftOut (env : Environment) (type : TypeRef) : Prop
  | unknown (kind : type.kind = .unknown)
  | composite (kind : type.kind = .composite) (foreign : env.scope.admits type.package = false)
  | generic (sort : type.IsGeneric)
      (foreign : ∀ raw ∈ type.raw, env.scope.admits raw.package = false)
  | array (kind : type.kind = .array) (empty : type.component = none)

/-- The parameters of the declaration of a type; a type without a declaration has none. -/
def parameters (env : Environment) (type : TypeRef) : List String :=
  ((env.declarations.find? type).map Declaration.typeParameters).getD []

/-- A declared type as it stands in an expression: its name, with its parameters if it has any. -/
def head (env : Environment) (type : TypeRef) : Expression :=
  if (type.parameters env).isEmpty then .ofWord type.simpleName
  else .group ((type.parameters env).map .word) (some type.simpleName)

mutual

/-- A type resolves to a client type. -/
inductive ResolvesTo (env : Environment) : TypeRef → Target → Prop
  | scalar {type : TypeRef} {word : String} (kind : type.kind.scalar? = some word) :
      ResolvesTo env type { expression := .ofWord word, contributing := [type] }
  | enumeration {type : TypeRef} (kind : type.kind = .enumeration) :
      ResolvesTo env type
        { expression := .ofWord type.simpleName, contributing := [type], discovered := [type] }
  | composite {type : TypeRef} (kind : type.kind = .composite)
      (admitted : env.scope.admits type.package = true) :
      ResolvesTo env type
        { expression := type.head env, contributing := [type], discovered := [type] }
  | wrapped {type : TypeRef} {wrapper : String} {parts : List TypeRef} {targets : List Target}
      (wraps : type.wrapped? = some (wrapper, parts)) (below : ResolveTo env parts targets) :
      ResolvesTo env type (.join targets wrapper)
  | generic {type raw : TypeRef} {targets : List Target} (sort : type.IsGeneric)
      (heads : type.raw = some raw) (admitted : env.scope.admits raw.package = true)
      (named : raw.hasName = true) (below : ResolveTo env type.arguments targets) :
      ResolvesTo env type
        { Target.join targets raw.simpleName with
          discovered := .named .composite raw.name raw.package ::
            targets.flatMap Target.discovered }
  | typeVariable {type : TypeRef} (kind : type.kind = .typeVariable) :
      ResolvesTo env type { expression := .ofWord type.simpleName }
  | wildcard {type : TypeRef} {targets : List Target} (kind : type.kind = .wildcard)
      (below : ResolveTo env type.bounds targets) :
      ResolvesTo env type
        { expression := .any, discovered := targets.flatMap Target.discovered }
  | any {type : TypeRef} (leftOut : type.LeftOut env) : ResolvesTo env type .any

/-- Several types resolve to client types, one by one. -/
inductive ResolveTo (env : Environment) : List TypeRef → List Target → Prop
  | nil : ResolveTo env [] []
  | cons {type : TypeRef} {rest : List TypeRef} {target : Target} {targets : List Target}
      (first : ResolvesTo env type target) (others : ResolveTo env rest targets) :
      ResolveTo env (type :: rest) (target :: targets)

end

variable {env : Environment}

/-- The resolved parts of a type are among the types that it is made of. -/
theorem mem_of_mem_resolvedParts {type inner : TypeRef} (h : inner ∈ type.resolvedParts env) :
    inner ∈ type.component ∨ inner ∈ type.arguments ∨ inner ∈ type.bounds := by
  unfold resolvedParts at h
  split at h
  · exact Or.inl (Option.mem_toList.mp h)
  · exact Or.inr (Or.inr h)
  · split at h
    · exact Or.inr (Or.inl h)
    · exact Or.inr (Or.inl h)
    · split at h
      · exact Or.inr (Or.inl h)
      · cases h
  · cases h

/-- Validation asks a parameterized type for arguments. -/
theorem WellFormed.arguments_ne_nil {type : TypeRef} (hwell : type.WellFormed)
    (hkind : type.kind = .parameterized) : type.arguments ≠ [] := by
  obtain ⟨own, -, -, -, -⟩ := hwell
  intro hnone
  unfold brokenRule? at own
  rw [hkind, hnone] at own
  simp only [List.isEmpty_nil, if_true] at own
  split at own <;> cases own

/-- No wrapper is empty, and validation has gone through what is inside. -/
theorem WellFormed.of_wraps {type : TypeRef} {wrapper : String} {parts : List TypeRef}
    (hwell : type.WellFormed) (hwraps : type.wrapped? = some (wrapper, parts)) :
    parts ≠ [] ∧ ∀ part ∈ parts, part.WellFormed := by
  rcases type with ⟨kind, name, package, component, rawKind, raw, arguments, bounds⟩
  cases kind with
  | array =>
      obtain ⟨inner, rfl, hsame⟩ := Option.map_eq_some_iff.mp hwraps
      cases hsame
      obtain ⟨-, hcomponent, -, -, -⟩ := hwell
      exact ⟨by simp, by simpa using hcomponent⟩
  | parameterized =>
      obtain rfl : arguments = parts := by
        rcases rawKind with - | sort
        · cases hwraps
        · cases sort <;> cases hwraps <;> rfl
      exact ⟨hwell.arguments_ne_nil rfl, hwell.arguments⟩
  | _ => cases hwraps

private theorem resolvesTo_resolveComposite {type : TypeRef} (hkind : type.kind = .composite)
    {target : Target} (h : (type.resolveComposite env).outcome = .ok target) :
    ResolvesTo env type target := by
  unfold resolveComposite at h
  by_cases hadmits : env.scope.admits type.package = true
  · rw [if_pos hadmits] at h
    obtain rfl := Except.ok.inj h
    exact .composite hkind hadmits
  · rw [if_neg hadmits] at h
    obtain rfl := Except.ok.inj h
    exact .any (.composite hkind (Bool.eq_false_iff.mpr hadmits))

/-- A generic type resolves by the name of its raw type, or it is left out. -/
private theorem resolvesTo_generic {type : TypeRef} (hsort : type.IsGeneric)
    (hparts : ∀ targets, (resolveAll env type.arguments).outcome = .ok targets →
      ResolveTo env type.arguments targets)
    {target : Target}
    (h : (match type.raw with
      | some raw =>
          if env.scope.admits raw.package then do
            .ofExcept (joinRaw raw (← resolveAll env type.arguments))
          else .done .any
      | none => .done .any : Logged Rejection Target).outcome = .ok target) :
    ResolvesTo env type target := by
  cases hraw : type.raw with
  | none =>
      rw [hraw] at h
      obtain rfl := Except.ok.inj h
      exact .any (.generic hsort (by simp [hraw]))
  | some raw =>
      by_cases hadmits : env.scope.admits raw.package = true
      · simp only [hraw, hadmits, if_true] at h
        obtain ⟨targets, htargets, hjoin⟩ := (Logged.bind_outcome_eq_ok_iff _ _ _).mp h
        have hjoin : joinRaw raw targets = .ok target := hjoin
        rw [joinRaw_eq] at hjoin
        split at hjoin
        · next hnamed =>
            obtain rfl := Except.ok.inj hjoin
            exact .generic hsort hraw hadmits hnamed (hparts targets htargets)
        · cases hjoin
      · simp only [hraw, hadmits] at h
        obtain rfl := Except.ok.inj h
        exact .any (.generic hsort (by simpa [hraw] using hadmits))

mutual

/-- What resolves does so by the rules. -/
theorem resolvesTo_of_resolve : (type : TypeRef) → (target : Target) →
    (type.resolve env).outcome = .ok target → ResolvesTo env type target
  | ⟨kind, name, package, component, rawKind, raw, arguments, bounds⟩, target, h => by
      have harguments := resolveTo_of_resolveAll arguments
      rw [resolve.eq_def] at h
      cases kind with
      | array =>
          cases component with
          | none =>
              obtain rfl := Except.ok.inj h
              exact .any (.array rfl rfl)
          | some inner =>
              obtain ⟨found, hfound, hret⟩ := (Logged.bind_outcome_eq_ok_iff _ _ _).mp h
              obtain rfl := Except.ok.inj hret
              have hinner := resolvesTo_of_resolve inner found hfound
              have hjoin : ResolvesTo env
                  ⟨.array, name, package, some inner, rawKind, raw, arguments, bounds⟩
                  (.join [found] "Array") :=
                .wrapped rfl (.cons hinner .nil)
              simpa [Target.join] using hjoin
      | parameterized =>
          rcases rawKind with - | sort
          · exact resolvesTo_generic ⟨rfl, by simp, by simp⟩ harguments h
          · cases sort with
            | map | collection =>
                obtain ⟨targets, htargets, hret⟩ := (Logged.bind_outcome_eq_ok_iff _ _ _).mp h
                obtain rfl := Except.ok.inj hret
                exact .wrapped rfl (harguments targets htargets)
            | other => exact resolvesTo_generic ⟨rfl, by simp, by simp⟩ harguments h
      | wildcard =>
          obtain ⟨targets, htargets, hret⟩ := (Logged.bind_outcome_eq_ok_iff _ _ _).mp h
          obtain rfl := Except.ok.inj hret
          exact .wildcard rfl (resolveTo_of_resolveAll bounds targets htargets)
      | composite => exact resolvesTo_resolveComposite rfl h
      | enumeration =>
          obtain rfl := Except.ok.inj h
          exact .enumeration rfl
      | typeVariable =>
          obtain rfl := Except.ok.inj h
          exact .typeVariable rfl
      | unknown =>
          obtain rfl := Except.ok.inj h
          exact .any (.unknown rfl)
      | void | primitive | string | boolean | number =>
          obtain rfl := Except.ok.inj h
          exact .scalar rfl

theorem resolveTo_of_resolveAll : (types : List TypeRef) → (targets : List Target) →
    (resolveAll env types).outcome = .ok targets → ResolveTo env types targets
  | [], targets, h => by
      rw [resolveAll] at h
      obtain rfl := Except.ok.inj h
      exact .nil
  | type :: rest, targets, h => by
      rw [resolveAll] at h
      obtain ⟨target, htarget, h⟩ := (Logged.bind_outcome_eq_ok_iff _ _ _).mp h
      obtain ⟨others, hothers, hret⟩ := (Logged.bind_outcome_eq_ok_iff _ _ _).mp h
      obtain rfl := Except.ok.inj hret
      exact .cons (resolvesTo_of_resolve type target htarget)
        (resolveTo_of_resolveAll rest others hothers)

end

end TypeRef

end CatalogClient
