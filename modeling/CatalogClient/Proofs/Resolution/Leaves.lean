/-
# The leaves of a client type

A file imports the declared types that its client types are made of, so all of them have to be
generated. What a client type is made of are the leaves of its server type: scalars, enumerations
and composite types of scanned packages, from left to right, below arrays, maps, collections and the
arguments of generic types of scanned packages. The bounds of a wildcard are resolved as well, but
no leaf below them is shown.
-/

import CatalogClient.Proofs.Resolution

namespace CatalogClient

namespace TypeRef

/-- Whether a type is shown in the client by a name of its own. -/
def isLeaf (env : Environment) (type : TypeRef) : Bool :=
  type.kind.scalar?.isSome || type.kind = .enumeration
    || type.kind = .composite && env.scope.admits type.package

/-- The resolved parts of a type that are shown in the client: all of them, unless it is a wildcard.
-/
def shownParts (env : Environment) (type : TypeRef) : List TypeRef :=
  if type.kind = .wildcard then [] else type.resolvedParts env

theorem sizeOf_lt_of_mem_resolvedParts {env : Environment} {type inner : TypeRef}
    (h : inner ∈ type.resolvedParts env) : sizeOf inner < sizeOf type := by
  rcases type with ⟨kind, name, package, component, rawKind, raw, arguments, bounds⟩
  rw [mk.sizeOf_spec]
  rcases mem_of_mem_resolvedParts h with hmem | hmem | hmem
  · obtain rfl : component = some inner := hmem
    rw [Option.some.sizeOf_spec]
    omega
  · have : sizeOf inner < sizeOf arguments := List.sizeOf_lt_of_mem hmem
    omega
  · have : sizeOf inner < sizeOf bounds := List.sizeOf_lt_of_mem hmem
    omega

theorem sizeOf_lt_of_mem_shownParts {env : Environment} {type inner : TypeRef}
    (h : inner ∈ type.shownParts env) : sizeOf inner < sizeOf type := by
  unfold shownParts at h
  split at h
  · cases h
  · exact sizeOf_lt_of_mem_resolvedParts h

/-- The leaves of a type, from left to right: the type itself if it is one, or else those of its
shown parts. -/
def leaves (env : Environment) (type : TypeRef) : List TypeRef :=
  if type.isLeaf env then [type]
  else (type.shownParts env).attach.flatMap fun part => leaves env part.1
termination_by type
decreasing_by exact sizeOf_lt_of_mem_shownParts part.2

variable {env : Environment} {type : TypeRef}

theorem leaves_of_isLeaf (h : type.isLeaf env = true) : type.leaves env = [type] := by
  rw [leaves, if_pos h]

theorem leaves_of_shownParts {parts : List TypeRef} (hleaf : type.isLeaf env = false)
    (hparts : type.shownParts env = parts) : type.leaves env = parts.flatMap (leaves env) := by
  rw [leaves, hleaf, hparts]
  simp

theorem leaves_of_nothing_shown (hleaf : type.isLeaf env = false)
    (hparts : type.shownParts env = []) : type.leaves env = [] :=
  leaves_of_shownParts hleaf hparts

theorem shownParts_of_wraps (env : Environment) {wrapper : String} {parts : List TypeRef}
    (hwraps : type.wrapped? = some (wrapper, parts)) :
    type.isLeaf env = false ∧ type.shownParts env = parts := by
  rcases type with ⟨kind, name, package, component, rawKind, raw, arguments, bounds⟩
  cases kind with
  | array =>
      obtain ⟨inner, rfl, hsame⟩ := Option.map_eq_some_iff.mp hwraps
      cases hsame
      exact ⟨rfl, rfl⟩
  | parameterized =>
      rcases rawKind with - | sort
      · cases hwraps
      · cases sort <;> cases hwraps <;> exact ⟨rfl, rfl⟩
  | _ => cases hwraps

theorem shownParts_of_isGeneric (env : Environment) (hsort : type.IsGeneric) :
    type.isLeaf env = false ∧ type.shownParts env =
      if type.raw.any fun raw => env.scope.admits raw.package then type.arguments else [] := by
  obtain ⟨hkind, hmap, hcollection⟩ := hsort
  rcases type with ⟨kind, name, package, component, rawKind, raw, arguments, bounds⟩
  obtain rfl : kind = .parameterized := hkind
  rcases rawKind with - | sort
  · exact ⟨rfl, rfl⟩
  · cases sort with
    | map => exact absurd rfl hmap
    | collection => exact absurd rfl hcollection
    | other => exact ⟨rfl, rfl⟩

/-- A type that is left out shows no leaves. -/
theorem leaves_of_leftOut (h : type.LeftOut env) : type.leaves env = [] := by
  have hnone : type.isLeaf env = false ∧ type.shownParts env = [] := by
    cases h with
    | generic hsort hforeign =>
        obtain ⟨hleaf, hparts⟩ := shownParts_of_isGeneric env hsort
        refine ⟨hleaf, hparts.trans (if_neg ?_)⟩
        cases hraw : type.raw with
        | none => simp
        | some raw => simp [hforeign raw hraw]
    | unknown hkind => simp [isLeaf, shownParts, resolvedParts, hkind, TypeKind.scalar?]
    | composite hkind hforeign =>
        simp [isLeaf, shownParts, resolvedParts, hkind, hforeign, TypeKind.scalar?]
    | array hkind hempty =>
        simp [isLeaf, shownParts, resolvedParts, hkind, hempty, TypeKind.scalar?]
  exact leaves_of_nothing_shown hnone.1 hnone.2

mutual

/-- By every rule a target contributes the leaves of its type, and no others. -/
theorem ResolvesTo.contributes : {type : TypeRef} → {target : Target} →
    ResolvesTo env type target → target.contributing = type.leaves env
  | _, _, .scalar hkind => by
      rw [leaves_of_isLeaf (by simp [isLeaf, hkind])]
  | _, _, .enumeration hkind => by
      rw [leaves_of_isLeaf (by simp [isLeaf, hkind])]
  | _, _, .composite hkind hadmits => by
      rw [leaves_of_isLeaf (by simp [isLeaf, hkind, hadmits])]
  | _, _, .wrapped hwraps hbelow => by
      obtain ⟨hleaf, hparts⟩ := shownParts_of_wraps env hwraps
      rw [leaves_of_shownParts hleaf hparts, ← hbelow.contributes]
      rfl
  | _, _, .generic hsort hraw hadmits hnamed hbelow => by
      obtain ⟨hleaf, hparts⟩ := shownParts_of_isGeneric env hsort
      rw [hraw, Option.any_some, if_pos hadmits] at hparts
      rw [leaves_of_shownParts hleaf hparts, ← hbelow.contributes]
      rfl
  | _, _, .typeVariable hkind => by
      refine (leaves_of_nothing_shown ?_ ?_).symm
      · simp [isLeaf, hkind, TypeKind.scalar?]
      · simp [shownParts, resolvedParts, hkind]
  | _, _, .wildcard hkind hbelow => by
      refine (leaves_of_nothing_shown ?_ ?_).symm
      · simp [isLeaf, hkind, TypeKind.scalar?]
      · simp [shownParts, hkind]
  | _, _, .any hleft => by
      rw [leaves_of_leftOut hleft]
      rfl

theorem ResolveTo.contributes : {types : List TypeRef} → {targets : List Target} →
    ResolveTo env types targets →
      targets.flatMap Target.contributing = types.flatMap (leaves env)
  | _, _, .nil => rfl
  | _, _, .cons hfirst hothers => by
      rw [List.flatMap_cons, List.flatMap_cons, hfirst.contributes, hothers.contributes]

end

/-- What a well-formed type resolves to can be imported. Every declared type that its client type is
made of has to be generated; all that has to be generated has a name and is an enumeration, or a
composite type of a scanned package; and the client type is made of the leaves of the type, in
order. -/
theorem resolve_contributes_leaves {target : Target} (hwell : type.WellFormed)
    (h : (type.resolve env).outcome = .ok target) :
    (∀ found ∈ target.contributing, found.isDeclared = true → found ∈ target.discovered) ∧
      (∀ found ∈ target.discovered, found.hasName = true ∧
        (found.kind = .enumeration ∨
          found.kind = .composite ∧ env.scope.admits found.package = true)) ∧
      target.contributing = type.leaves env := by
  obtain ⟨hground, hnamed⟩ := leadsTo_of_resolve type target h
  refine ⟨hground.covers, fun found hfound => ⟨hnamed hwell found hfound, ?_⟩,
    (resolvesTo_of_resolve type target h).contributes⟩
  have hdeclared := hground.declared found hfound
  simp only [isDeclared, Bool.or_eq_true, decide_eq_true_eq] at hdeclared
  rcases hdeclared with hkind | hkind
  · exact Or.inr ⟨hkind, hground.admitted found hfound hkind⟩
  · exact Or.inl hkind

end TypeRef

namespace Sample

def appOnly : Environment where
  scope := .ofPackages ["app"]
  declarations := .ofList []

def visitor : TypeRef :=
  .named .composite (some "Visitor") (some "app")

def grade : TypeRef :=
  .named .enumeration (some "Grade")

/-- A page of an array of grades, of a type of another package, and of anything that is a visitor.
-/
def mixedPage : TypeRef where
  kind := .parameterized
  rawKind := some .other
  raw := some (.named .composite (some "Page") (some "app"))
  arguments := [
    { kind := .array, component := some grade },
    .named .composite (some "Date") (some "util"),
    { kind := .wildcard, bounds := [visitor] }]

end Sample

/-- The page and the visitor have to be generated, but the grade alone is shown. -/
theorem TypeRef.resolve_contributes_leaves_sample :
    Sample.mixedPage.WellFormed ∧
      ∃ target, (Sample.mixedPage.resolve Sample.appOnly).outcome = .ok target ∧
        target.discovered =
          [.named .composite (some "Page") (some "app"), Sample.grade, Sample.visitor] ∧
        Sample.mixedPage.leaves Sample.appOnly = [Sample.grade] := by
  have hwell : Sample.mixedPage.WellFormed := by decide
  obtain ⟨target, h, hdiscovered, hcontributing⟩ :
      ∃ target, (Sample.mixedPage.resolve Sample.appOnly).outcome = .ok target ∧
        target.discovered =
          [.named .composite (some "Page") (some "app"), Sample.grade, Sample.visitor] ∧
        target.contributing = [Sample.grade] := ⟨_, rfl, rfl, rfl⟩
  obtain ⟨-, -, hleaves⟩ := resolve_contributes_leaves hwell h
  exact ⟨hwell, target, h, hdiscovered, hleaves.symm.trans hcontributing⟩

end CatalogClient
