/-
# Resolution in different scopes

A resolution asks its scope which packages are admitted, and nothing else. So two scopes that admit
the same packages resolve every type alike, whatever starts they are made of. If one scope admits
all that another one does, the wider one may show a type where the narrower one leaves it out, but
it never hides one: what the narrower scope shows and has generated stands in the same order among
what the wider one does.
-/

import CatalogClient.Proofs.Resolution.Leaves
import Mathlib.Data.List.Basic
import Mathlib.Data.List.Flatten

namespace CatalogClient

namespace Scope

/-- Whether every package that a scope admits is admitted by another one as well. -/
def Within (scope wider : Scope) : Prop :=
  ∀ package, scope.admits package = true → wider.admits package = true

theorem admits_eq_of_within {scope other : Scope} (h : scope.Within other)
    (hback : other.Within scope) (package : Option String) :
    scope.admits package = other.admits package :=
  Bool.eq_iff_iff.mpr ⟨h package, hback package⟩

theorem mem_starts_ofPackages {packages : List String} {start : String} :
    start ∈ (ofPackages packages).starts ↔ start ∈ packages ∧ start ≠ "" := by
  simp [ofPackages]

/-- A scope is within another one exactly if each of its starts goes on from one of the other's. A
start is the name of a package itself, so there is no other way to admit all that it admits. -/
theorem ofPackages_within_iff {packages others : List String} :
    (ofPackages packages).Within (ofPackages others) ↔
      ∀ start ∈ packages, start ≠ "" →
        ∃ other ∈ others, other ≠ "" ∧ other.toList <+: start.toList := by
  constructor
  · intro h start hmem hstart
    have hself : (ofPackages packages).admits (some start) = true :=
      (admits_some_iff _ _).mpr
        ⟨hstart, start, mem_starts_ofPackages.mpr ⟨hmem, hstart⟩, List.prefix_rfl⟩
    obtain ⟨-, other, hother, hbegins⟩ := (admits_some_iff _ _).mp (h _ hself)
    obtain ⟨hmem, hne⟩ := mem_starts_ofPackages.mp hother
    exact ⟨other, hmem, hne, hbegins⟩
  · intro h package hadmits
    cases package with
    | none => cases hadmits
    | some name =>
        obtain ⟨hname, start, hstart, hbegins⟩ := (admits_some_iff _ _).mp hadmits
        obtain ⟨hmem, hne⟩ := mem_starts_ofPackages.mp hstart
        obtain ⟨other, hother, hotherNe, hbefore⟩ := h start hmem hne
        exact (admits_some_iff _ _).mpr
          ⟨hname, other, mem_starts_ofPackages.mpr ⟨hother, hotherNe⟩, hbefore.trans hbegins⟩

/-- Starts in another order, starts that are empty, and starts that go on from one that is there
already change nothing about what is admitted. A start that is repeated is of the last kind. -/
theorem admits_ofPackages_of_perm {packages more others : List String}
    (hmore : ∀ start ∈ more, start = "" ∨
      ∃ known ∈ packages, known ≠ "" ∧ known.toList <+: start.toList)
    (hperm : others.Perm (packages ++ more)) (package : Option String) :
    (ofPackages packages).admits package = (ofPackages others).admits package := by
  apply admits_eq_of_within
  · refine ofPackages_within_iff.mpr fun start hmem hstart => ⟨start, ?_, hstart, List.prefix_rfl⟩
    exact hperm.mem_iff.mpr (List.mem_append_left _ hmem)
  · refine ofPackages_within_iff.mpr fun start hmem hstart => ?_
    rcases List.mem_append.mp (hperm.mem_iff.mp hmem) with hknown | hnew
    · exact ⟨start, hknown, hstart, List.prefix_rfl⟩
    · exact (hmore start hnew).resolve_left hstart

end Scope

/-- Two environments in which a type is resolved alike: they admit the same packages and declare the
same parameters of every type. -/
structure Environment.ResolvesAs (env other : Environment) : Prop where
  admits : ∀ package, env.scope.admits package = other.scope.admits package
  typeParameters : ∀ type, (env.declarations.find? type).map Declaration.typeParameters =
    (other.declarations.find? type).map Declaration.typeParameters

namespace TypeRef

section Alike

variable {env other : Environment}

theorem resolveComposite_eq_of_resolvesAs (h : env.ResolvesAs other) (type : TypeRef) :
    type.resolveComposite env = type.resolveComposite other := by
  unfold resolveComposite
  rw [h.admits, h.typeParameters]

mutual

/-- A type is resolved in the same way, with the same records. -/
theorem resolve_eq_of_resolvesAs (h : env.ResolvesAs other) : (type : TypeRef) →
    type.resolve env = type.resolve other
  | ⟨kind, name, package, component, rawKind, raw, arguments, bounds⟩ => by
      have harguments := resolveAll_eq_of_resolvesAs h arguments
      have hbounds := resolveAll_eq_of_resolvesAs h bounds
      rw [resolve.eq_def env, resolve.eq_def other]
      cases kind with
      | array =>
          cases component with
          | none => rfl
          | some inner => simp only [resolve_eq_of_resolvesAs h inner]
      | composite => exact resolveComposite_eq_of_resolvesAs h _
      | parameterized => simp only [harguments, h.admits]
      | wildcard => simp only [hbounds]
      | _ => rfl

theorem resolveAll_eq_of_resolvesAs (h : env.ResolvesAs other) : (types : List TypeRef) →
    resolveAll env types = resolveAll other types
  | [] => rfl
  | type :: rest => by
      rw [resolveAll, resolveAll, resolve_eq_of_resolvesAs h type,
        resolveAll_eq_of_resolvesAs h rest]

end

end Alike

/-- The type that a reference by itself has generated, without its parts: the declared type that it
is, or the raw type of a generic one, if the scope admits it. -/
def ownNeed (env : Environment) (type : TypeRef) : List TypeRef :=
  match type.kind with
  | .enumeration => [type]
  | .composite => if env.scope.admits type.package then [type] else []
  | .parameterized =>
      match type.rawKind with
      | some .map | some .collection => []
      | _ =>
          (type.raw.toList.filter fun raw => env.scope.admits raw.package).map fun raw =>
            named .composite raw.name raw.package
  | _ => []

/-- The types that a reference has generated: its own one, and then those of its parts. -/
def needs (env : Environment) (type : TypeRef) : List TypeRef :=
  type.ownNeed env ++ (type.resolvedParts env).attach.flatMap fun part => needs env part.1
termination_by type
decreasing_by exact sizeOf_lt_of_mem_resolvedParts part.2

section Needs

variable {env : Environment} {type : TypeRef}

theorem needs_eq (env : Environment) (type : TypeRef) :
    type.needs env = type.ownNeed env ++ (type.resolvedParts env).flatMap (needs env) := by
  rw [needs]
  simp

theorem needs_of_parts {parts : List TypeRef} (hown : type.ownNeed env = [])
    (hparts : type.resolvedParts env = parts) : type.needs env = parts.flatMap (needs env) := by
  rw [needs_eq, hown, hparts, List.nil_append]

theorem needs_of_wraps (env : Environment) {wrapper : String} {parts : List TypeRef}
    (hwraps : type.wrapped? = some (wrapper, parts)) :
    type.needs env = parts.flatMap (needs env) := by
  rcases type with ⟨kind, name, package, component, rawKind, raw, arguments, bounds⟩
  cases kind with
  | array =>
      obtain ⟨inner, rfl, hsame⟩ := Option.map_eq_some_iff.mp hwraps
      cases hsame
      exact needs_of_parts rfl rfl
  | parameterized =>
      rcases rawKind with - | sort
      · cases hwraps
      · cases sort <;> cases hwraps <;> exact needs_of_parts rfl rfl
  | _ => cases hwraps

theorem needs_of_isGeneric (env : Environment) (hsort : type.IsGeneric) :
    type.ownNeed env =
      ((type.raw.toList.filter fun raw => env.scope.admits raw.package).map fun raw =>
        named .composite raw.name raw.package) ∧
    type.resolvedParts env =
      if type.raw.any fun raw => env.scope.admits raw.package then type.arguments else [] := by
  obtain ⟨hkind, hmap, hcollection⟩ := hsort
  rcases type with ⟨kind, name, package, component, rawKind, raw, arguments, bounds⟩
  obtain rfl : kind = .parameterized := hkind
  rcases rawKind with - | sort
  · exact ⟨rfl, rfl⟩
  · cases sort with
    | map => exact absurd rfl hmap
    | collection => exact absurd rfl hcollection
    | other => exact ⟨rfl, rfl⟩

theorem needs_of_leftOut (h : type.LeftOut env) : type.needs env = [] := by
  rw [needs_eq]
  cases h with
  | generic hsort hforeign =>
      obtain ⟨hown, hparts⟩ := needs_of_isGeneric env hsort
      rw [hown, hparts]
      cases hraw : type.raw with
      | none => simp
      | some raw => simp [hforeign raw hraw]
  | unknown hkind => simp [ownNeed, resolvedParts, hkind]
  | composite hkind hforeign => simp [ownNeed, resolvedParts, hkind, hforeign]
  | array hkind hempty => simp [ownNeed, resolvedParts, hkind, hempty]

mutual

/-- By every rule a target has exactly the needs of its type generated. -/
theorem ResolvesTo.discovers : {type : TypeRef} → {target : Target} →
    ResolvesTo env type target → target.discovered = type.needs env
  | ⟨kind, _, _, _, _, _, _, _⟩, _, .scalar hkind => by
      rw [needs_eq]
      cases kind <;> first | rfl | cases hkind
  | _, _, .enumeration hkind => by
      rw [needs_eq]
      simp [ownNeed, resolvedParts, hkind]
  | _, _, .composite hkind hadmits => by
      rw [needs_eq]
      simp [ownNeed, resolvedParts, hkind, hadmits]
  | _, _, .wrapped hwraps hbelow => by
      rw [needs_of_wraps env hwraps]
      exact hbelow.discovers
  | _, _, .generic hsort hraw hadmits hnamed hbelow => by
      obtain ⟨hown, hparts⟩ := needs_of_isGeneric env hsort
      rw [needs_eq, hown, hparts, hraw]
      simp [hadmits, ← hbelow.discovers]
  | _, _, .typeVariable hkind => by
      rw [needs_eq]
      simp [ownNeed, resolvedParts, hkind]
  | _, _, .wildcard hkind hbelow => by
      rw [needs_eq]
      simp [ownNeed, resolvedParts, hkind, ← hbelow.discovers]
  | _, _, .any hleft => by
      rw [needs_of_leftOut hleft]
      rfl

theorem ResolveTo.discovers : {types : List TypeRef} → {targets : List Target} →
    ResolveTo env types targets →
      targets.flatMap Target.discovered = types.flatMap (needs env)
  | _, _, .nil => rfl
  | _, _, .cons hfirst hothers => by
      rw [List.flatMap_cons, List.flatMap_cons, hfirst.discovers, hothers.discovers]

end

end Needs

section Wider

variable {env wider : Environment}

/-- A wider scope has at least the same raw types generated, and the same declared ones. -/
theorem ownNeed_sublist (h : env.scope.Within wider.scope) (type : TypeRef) :
    (type.ownNeed env).Sublist (type.ownNeed wider) := by
  unfold ownNeed
  split
  · exact .refl _
  · split
    · next hadmits =>
        rw [if_pos (h _ hadmits)]
    · exact List.nil_sublist _
  · split
    · exact .refl _
    · exact .refl _
    · exact (List.monotone_filter_right _ fun raw hadmits => h _ hadmits).map _
  · exact .refl _

/-- A wider scope goes into at least the same parts. -/
theorem resolvedParts_sublist (h : env.scope.Within wider.scope) (type : TypeRef) :
    (type.resolvedParts env).Sublist (type.resolvedParts wider) := by
  unfold resolvedParts
  split
  · exact .refl _
  · exact .refl _
  · split
    · exact .refl _
    · exact .refl _
    · split
      · next hadmits =>
          have hwider : (type.raw.any fun raw => wider.scope.admits raw.package) = true := by
            cases hraw : type.raw with
            | none => simp [hraw] at hadmits
            | some raw => exact h _ (by simpa [hraw] using hadmits)
          rw [if_pos hwider]
      · exact List.nil_sublist _
  · exact .refl _

theorem shownParts_sublist (h : env.scope.Within wider.scope) (type : TypeRef) :
    (type.shownParts env).Sublist (type.shownParts wider) := by
  unfold shownParts
  split
  · exact .refl _
  · exact resolvedParts_sublist h type

theorem isLeaf_of_within (h : env.scope.Within wider.scope) {type : TypeRef}
    (hleaf : type.isLeaf env = true) : type.isLeaf wider = true := by
  simp only [isLeaf, Bool.or_eq_true, Bool.and_eq_true] at hleaf ⊢
  exact hleaf.imp_right fun hcomposite => ⟨hcomposite.1, h _ hcomposite.2⟩

/-- What becomes a leaf in a wider scope is a composite type, and shows no parts in any scope. -/
theorem shownParts_of_new_leaf {type : TypeRef} (hleaf : type.isLeaf env = false)
    (hwider : type.isLeaf wider = true) : type.shownParts env = [] := by
  have hkind : type.kind = .composite := by
    simp only [isLeaf, Bool.or_eq_true, Bool.or_eq_false_iff, Bool.and_eq_true] at hleaf hwider
    rcases hwider with (hscalar | hkind) | hcomposite
    · rw [hleaf.1.1] at hscalar
      cases hscalar
    · rw [hleaf.1.2] at hkind
      cases hkind
    · exact of_decide_eq_true hcomposite.1
  simp [shownParts, resolvedParts, hkind]

theorem leaves_sublist (h : env.scope.Within wider.scope) (type : TypeRef) :
    (type.leaves env).Sublist (type.leaves wider) := by
  by_cases hleaf : type.isLeaf env = true
  · rw [leaves_of_isLeaf hleaf, leaves_of_isLeaf (isLeaf_of_within h hleaf)]
  · rw [Bool.not_eq_true] at hleaf
    by_cases hwider : type.isLeaf wider = true
    · rw [leaves_of_nothing_shown hleaf (shownParts_of_new_leaf hleaf hwider)]
      exact List.nil_sublist _
    · rw [leaves_of_shownParts hleaf rfl, leaves_of_shownParts (Bool.eq_false_iff.mpr hwider) rfl]
      exact (List.Sublist.flatMap_right _ fun part hpart => leaves_sublist h part).trans
        ((shownParts_sublist h type).flatMap _)
termination_by type
decreasing_by exact sizeOf_lt_of_mem_shownParts hpart

theorem needs_sublist (h : env.scope.Within wider.scope) (type : TypeRef) :
    (type.needs env).Sublist (type.needs wider) := by
  rw [needs_eq env, needs_eq wider]
  refine (ownNeed_sublist h type).append ?_
  exact (List.Sublist.flatMap_right _ fun part hpart => needs_sublist h part).trans
    ((resolvedParts_sublist h type).flatMap _)
termination_by type
decreasing_by exact sizeOf_lt_of_mem_resolvedParts hpart

end Wider

/-- A resolution depends on its scope through the packages that are admitted alone, and grows with
them. If one list of packages admits all that another one does, what a type shows and what it has
generated for the narrower list stands in the same order among what it does for the wider one. If
both admit the same, the type is resolved alike, record by record. So it is after the packages were
brought into another order, and after packages were added that are empty or go on from one that was
there. -/
theorem resolve_grows_with_scope (packages others : List String) (declarations : DeclarationTable)
    (type : TypeRef) :
    let env : Environment := ⟨.ofPackages packages, declarations⟩
    let wider : Environment := ⟨.ofPackages others, declarations⟩
    ((∀ package, env.scope.admits package = true → wider.scope.admits package = true) →
      ∀ target target', (type.resolve env).outcome = .ok target →
        (type.resolve wider).outcome = .ok target' →
          target.contributing.Sublist target'.contributing ∧
            target.discovered.Sublist target'.discovered) ∧
    ((∀ package, env.scope.admits package = wider.scope.admits package) →
      type.resolve env = type.resolve wider) ∧
    (∀ more : List String,
      (∀ start ∈ more, start = "" ∨
        ∃ known ∈ packages, known ≠ "" ∧ known.toList <+: start.toList) →
      others.Perm (packages ++ more) → type.resolve env = type.resolve wider) := by
  intro env wider
  have halike : (∀ package, env.scope.admits package = wider.scope.admits package) →
      type.resolve env = type.resolve wider :=
    fun hsame => resolve_eq_of_resolvesAs ⟨hsame, fun _ => rfl⟩ type
  refine ⟨fun hwithin target target' h h' => ?_, halike, fun more hmore hperm => ?_⟩
  · have hrules := resolvesTo_of_resolve type target h
    have hrules' := resolvesTo_of_resolve type target' h'
    rw [hrules.contributes, hrules'.contributes, hrules.discovers, hrules'.discovers]
    exact ⟨leaves_sublist hwithin type, needs_sublist hwithin type⟩
  · exact halike (Scope.admits_ofPackages_of_perm hmore hperm)

/-- Once its package is scanned, the date is shown after the grade, which was shown before. -/
theorem resolve_grows_with_scope_sample :
    (Scope.ofPackages ["app"]).Within (.ofPackages ["util", "", "app"]) ∧
      ∃ target target',
        (Sample.mixedPage.resolve ⟨.ofPackages ["app"], []⟩).outcome = .ok target ∧
        (Sample.mixedPage.resolve ⟨.ofPackages ["util", "", "app"], []⟩).outcome = .ok target' ∧
        target.discovered.Sublist target'.discovered ∧
        target.contributing.Sublist target'.contributing ∧
        target'.contributing = [Sample.grade, .named .composite (some "Date") (some "util")] := by
  have hwithin : (Scope.ofPackages ["app"]).Within (.ofPackages ["util", "", "app"]) :=
    Scope.ofPackages_within_iff.mpr (by decide)
  obtain ⟨target, h⟩ :
      ∃ target, (Sample.mixedPage.resolve ⟨.ofPackages ["app"], []⟩).outcome = .ok target :=
    ⟨_, rfl⟩
  obtain ⟨target', h', hshown⟩ : ∃ target',
      (Sample.mixedPage.resolve ⟨.ofPackages ["util", "", "app"], []⟩).outcome = .ok target' ∧
        target'.contributing = [Sample.grade, .named .composite (some "Date") (some "util")] :=
    ⟨_, rfl, rfl⟩
  obtain ⟨hgrows, -, -⟩ :=
    resolve_grows_with_scope ["app"] ["util", "", "app"] [] Sample.mixedPage
  obtain ⟨hcontributing, hdiscovered⟩ := hgrows hwithin target target' h h'
  exact ⟨hwithin, target, target', h, h', hdiscovered, hcontributing, hshown⟩

end TypeRef

end CatalogClient
