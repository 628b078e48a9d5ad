/-
# Where a resolution fails

A resolution goes into some of the parts of a type and not into others. Whatever it goes into obeys
the rules of its kind, so there is one thing alone that it can miss: the name of the raw type of a
generic type that the scope admits. It misses one exactly if there is one, however deep, since no
type around it makes up for it. A type that is left out is not gone into at all, and so nothing
below it can fail.
-/

import CatalogClient.Proofs.Resolution.Rules

namespace CatalogClient

namespace TypeRef

variable {env : Environment} {type inner found : TypeRef}

theorem Meets.trans (h : Meets env type inner) (hfound : Meets env inner found) :
    Meets env type found := by
  induction h with
  | self => exact hfound
  | part member _ ih => exact .part member (ih hfound)

theorem WellFormed.of_mem_resolvedParts (hwell : type.WellFormed)
    (h : inner ∈ type.resolvedParts env) : inner.WellFormed := by
  obtain ⟨-, hcomponent, -, harguments, hbounds⟩ := hwell
  rcases mem_of_mem_resolvedParts h with hmem | hmem | hmem
  · exact hcomponent inner hmem
  · exact harguments inner hmem
  · exact hbounds inner hmem

theorem WellFormed.of_meets (hwell : type.WellFormed) (h : Meets env type found) :
    found.WellFormed := by
  induction h with
  | self => exact hwell
  | part member _ ih => exact ih (hwell.of_mem_resolvedParts member)

/-- Where a type resolves, so does every type that is met on the way. -/
theorem exists_target_of_meets {target : Target} (hwell : type.WellFormed)
    (h : (type.resolve env).outcome = .ok target) (hmeets : Meets env type found) :
    ∃ inner, (found.resolve env).outcome = .ok inner := by
  cases hresolve : (found.resolve env).outcome with
  | ok inner => exact ⟨inner, rfl⟩
  | error rejection =>
      obtain ⟨-, nameless, hbelow, hlacks⟩ :=
        (resolve_eq_error_iff (hwell.of_meets hmeets)).mp hresolve
      have hfailed : (type.resolve env).outcome = .error namelessRejection :=
        (resolve_eq_error_iff hwell).mpr ⟨rfl, nameless, hmeets.trans hbelow, hlacks⟩
      cases h.symm.trans hfailed

theorem hasName_eq_false_iff : type.hasName = false ↔ type.name = none ∨ type.name = some "" := by
  unfold hasName simpleName
  cases type.name <;> simp

theorem lacksRawName_iff :
    found.LacksRawName env ↔ found.kind = .parameterized ∧ found.rawKind = some .other ∧
      ∃ raw, found.raw = some raw ∧ env.scope.admits raw.package = true ∧
        (raw.name = none ∨ raw.name = some "") := by
  simp only [← hasName_eq_false_iff]
  exact ⟨fun ⟨hkind, hsort, hraw⟩ => ⟨hkind, hsort, hraw⟩,
    fun ⟨hkind, hsort, hraw⟩ => ⟨hkind, hsort, hraw⟩⟩

private theorem resolveComposite_of_foreign (hforeign : env.scope.admits type.package = false) :
    (type.resolveComposite env).outcome = .ok .any := by
  unfold resolveComposite
  rw [if_neg (Bool.eq_false_iff.mp hforeign)]
  rfl

/-- A generic type resolves by its raw type. -/
theorem resolve_of_isGeneric (hsort : type.IsGeneric) :
    type.resolve env =
      match type.raw with
      | some raw =>
          if env.scope.admits raw.package then do
            .ofExcept (joinRaw raw (← resolveAll env type.arguments))
          else .done .any
      | none => .done .any := by
  obtain ⟨hkind, hmap, hcollection⟩ := hsort
  rcases type with ⟨kind, name, package, component, rawKind, raw, arguments, bounds⟩
  cases hkind
  rw [resolve.eq_def]
  rcases rawKind with - | sort
  · rfl
  · cases sort with
    | map => exact absurd rfl hmap
    | collection => exact absurd rfl hcollection
    | other => rfl

/-- A type that is left out resolves to the type of all values, whatever it is made of. -/
theorem resolve_of_leftOut (h : type.LeftOut env) : (type.resolve env).outcome = .ok .any := by
  cases h with
  | generic hsort hforeign =>
      rw [resolve_of_isGeneric hsort]
      cases hraw : type.raw with
      | none => rfl
      | some raw =>
          simp only [hforeign raw hraw]
          rfl
  | unknown hkind =>
      rcases type with ⟨kind, name, package, component, rawKind, raw, arguments, bounds⟩
      cases hkind
      rw [resolve.eq_def]
      rfl
  | composite hkind hforeign =>
      rcases type with ⟨kind, name, package, component, rawKind, raw, arguments, bounds⟩
      cases hkind
      rw [resolve.eq_def]
      exact resolveComposite_of_foreign hforeign
  | array hkind hempty =>
      rcases type with ⟨kind, name, package, component, rawKind, raw, arguments, bounds⟩
      cases hkind
      cases hempty
      rw [resolve.eq_def]
      rfl

/-- A well-formed type fails to resolve exactly if a generic type is met whose raw type is of a
scanned package and has no name, or an empty one, and this is the one way to fail. In every other
case it resolves: whatever is met has the parts that its kind asks for, and nothing is asked of what
a type is made of that is left out. -/
theorem resolve_fails_iff_nameless (hwell : type.WellFormed) :
    ((∃ rejection, (type.resolve env).outcome = .error rejection) ↔
      ∃ found, type.Meets env found ∧ found.kind = .parameterized ∧ found.rawKind = some .other ∧
        ∃ raw, found.raw = some raw ∧ env.scope.admits raw.package = true ∧
          (raw.name = none ∨ raw.name = some "")) ∧
    (∀ rejection, (type.resolve env).outcome = .error rejection →
      rejection = namelessRejection) ∧
    ((∃ target, (type.resolve env).outcome = .ok target) ↔
      ∀ found, type.Meets env found → found.kind = .parameterized → found.rawKind = some .other →
        ∀ raw, found.raw = some raw → env.scope.admits raw.package = true →
          raw.name ≠ none ∧ raw.name ≠ some "") ∧
    (∀ found, type.Meets env found → found.brokenRule? = none ∧
      (found.LeftOut env → (found.resolve env).outcome = .ok .any)) := by
  have hfails : (∃ rejection, (type.resolve env).outcome = .error rejection) ↔
      ∃ found, type.Meets env found ∧ found.LacksRawName env :=
    ⟨fun ⟨_, herror⟩ => ((resolve_eq_error_iff hwell).mp herror).2,
      fun hfound => ⟨_, (resolve_eq_error_iff hwell).mpr ⟨rfl, hfound⟩⟩⟩
  have hreturns : (∃ target, (type.resolve env).outcome = .ok target) ↔
      ¬∃ rejection, (type.resolve env).outcome = .error rejection := by
    cases (type.resolve env).outcome <;> simp
  simp only [lacksRawName_iff] at hfails
  refine ⟨hfails, fun rejection herror => ((resolve_eq_error_iff hwell).mp herror).1, ?_,
    fun found hmeets => ⟨?_, resolve_of_leftOut⟩⟩
  · rw [hreturns, hfails]
    simp only [not_exists, not_and, not_or, ne_eq]
  · obtain ⟨hrule, -, -, -, -⟩ := hwell.of_meets hmeets
    exact hrule

end TypeRef

namespace Sample

/-- A generic type with an argument whose raw type has a package, but no name. -/
def namelessList : TypeRef where
  kind := .parameterized
  rawKind := some .other
  raw := some { kind := .unknown, package := some "app" }
  arguments := [{ kind := .string }]

/-- A map from texts to anything that is such a list. -/
def namelessByText : TypeRef where
  kind := .parameterized
  rawKind := some .map
  arguments := [{ kind := .string }, { kind := .wildcard, bounds := [namelessList] }]

end Sample

/-- The map fails at the bound of its values if the package of the list is scanned, and resolves if
it is not. -/
theorem TypeRef.resolve_fails_iff_nameless_sample :
    Sample.namelessByText.WellFormed ∧
      (∃ rejection,
        (Sample.namelessByText.resolve ⟨.ofPackages ["app"], []⟩).outcome = .error rejection) ∧
      ∃ target,
        (Sample.namelessByText.resolve ⟨.ofPackages ["util"], []⟩).outcome = .ok target := by
  have hwell : Sample.namelessByText.WellFormed := by decide
  obtain ⟨hfails, -, -, -⟩ := @resolve_fails_iff_nameless ⟨.ofPackages ["app"], []⟩ _ hwell
  refine ⟨hwell, hfails.mpr ⟨Sample.namelessList, ?_, rfl, rfl, _, rfl, by decide, .inl rfl⟩,
    _, rfl⟩
  exact .part (List.mem_cons_of_mem _ List.mem_cons_self) (.part List.mem_cons_self .self)

end CatalogClient
