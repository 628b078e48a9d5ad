/-
# What a client type reads as

The text of a client type is put together from the texts of its parts, and so it is stated here for
a server type alone, without the expression in between. An expression has a rule of its own that an
empty wrapper gives way to the type of all values. The rule is never applied to an array, a map or a
generic type, since no type reads as nothing; only the declaration of a composite type can bring it
about, by a single parameter without a name.
-/

import CatalogClient.Proofs.Resolution.Failure
import CatalogClient.Proofs.TypeScript.Expression
import CatalogClient.Proofs.TypeScript.SourceFile

namespace CatalogClient

/-- The text of a declared type: its name, with the parameters of its declaration if there are any.
A single parameter without a name leaves nothing between the brackets. -/
def headText (name : String) (parameters : List String) : String :=
  if parameters = [] then name
  else if parameters = [""] then anyType
  else angled name parameters

namespace TypeRef

mutual

/-- The text of the client type of a server type. -/
def clientText (env : Environment) : TypeRef → String
  | ⟨kind, name, package, component, rawKind, raw, arguments, bounds⟩ =>
      let type : TypeRef := ⟨kind, name, package, component, rawKind, raw, arguments, bounds⟩
      match kind with
      | .string => "string"
      | .boolean => "boolean"
      | .number | .primitive => "number"
      | .void => "void"
      | .array =>
          match component with
          | some inner => angled "Array" [clientText env inner]
          | none => anyType
      | .enumeration | .typeVariable => type.simpleName
      | .composite =>
          if env.scope.admits package then headText type.simpleName (type.parameters env)
          else anyType
      | .parameterized =>
          match rawKind with
          | some .map => angled "Map" (clientTexts env arguments)
          | some .collection => angled "Array" (clientTexts env arguments)
          | _ =>
              match raw with
              | some raw =>
                  if env.scope.admits raw.package then
                    angled raw.simpleName (clientTexts env arguments)
                  else anyType
              | none => anyType
      | .wildcard | .unknown => anyType

/-- The texts of the client types of several server types. -/
def clientTexts (env : Environment) : List TypeRef → List String
  | [] => []
  | type :: rest => clientText env type :: clientTexts env rest

end

end TypeRef

theorem headText_ne_empty {name : String} (hname : name ≠ "") (parameters : List String) :
    headText name parameters ≠ "" := by
  unfold headText
  split
  · exact hname
  · split
    · decide
    · exact angled_ne_empty name parameters

theorem Target.render_join (targets : List Target) (wrapper : String) :
    (join targets wrapper).expression.render = Expression.wrap (some wrapper)
      (", ".intercalate (targets.map fun target => target.expression.render)) := by
  rw [join, Expression.render, Expression.renderAll_eq_map, List.map_map]
  rfl

namespace TypeRef

variable {env : Environment}

theorem clientTexts_eq_map (types : List TypeRef) :
    clientTexts env types = types.map (clientText env) := by
  induction types with
  | nil => rfl
  | cons type rest ih => rw [clientTexts, ih, List.map_cons]

theorem render_head (type : TypeRef) :
    (type.head env).render = headText type.simpleName (type.parameters env) := by
  unfold head headText
  generalize type.parameters env = parameters
  cases parameters with
  | nil => exact Expression.render_ofWord _
  | cons first rest =>
      rw [if_neg (by simp), if_neg (by simp), Expression.render, Expression.renderAll_words,
        Expression.wrap]
      simp only [intercalate_eq_empty_iff, reduceCtorEq, false_or]
      rfl

section Equations

variable {type : TypeRef}

theorem clientText_of_scalar {word : String} (h : type.kind.scalar? = some word) :
    type.clientText env = word := by
  rcases type with ⟨kind, name, package, component, rawKind, raw, arguments, bounds⟩
  cases kind <;> simp_all [TypeKind.scalar?, clientText]

theorem clientText_of_named (h : type.kind = .enumeration ∨ type.kind = .typeVariable) :
    type.clientText env = type.simpleName := by
  rcases type with ⟨kind, name, package, component, rawKind, raw, arguments, bounds⟩
  rcases h with rfl | rfl
  · rw [clientText]
  · rw [clientText]

theorem clientText_of_composite (h : type.kind = .composite)
    (hadmits : env.scope.admits type.package = true) :
    type.clientText env = headText type.simpleName (type.parameters env) := by
  rcases type with ⟨kind, name, package, component, rawKind, raw, arguments, bounds⟩
  obtain rfl : kind = .composite := h
  rw [clientText]
  exact if_pos hadmits

theorem clientText_of_wrapped? {wrapper : String} {parts : List TypeRef}
    (h : type.wrapped? = some (wrapper, parts)) :
    type.clientText env = angled wrapper (parts.map (clientText env)) := by
  rcases type with ⟨kind, name, package, component, rawKind, raw, arguments, bounds⟩
  unfold wrapped? at h
  cases kind with
  | array =>
      obtain ⟨inner, rfl, hsame⟩ := Option.map_eq_some_iff.mp h
      cases hsame
      rw [clientText, List.map_singleton]
  | parameterized =>
      rcases rawKind with - | sort
      · cases h
      · cases sort with
        | map | collection =>
            cases h
            rw [clientText, clientTexts_eq_map]
        | other => cases h
  | _ => cases h

/-- A generic type keeps its name if its raw type is of a scanned package. -/
theorem clientText_of_isGeneric (h : type.IsGeneric) :
    type.clientText env =
      match type.raw with
      | some raw =>
          if env.scope.admits raw.package then
            angled raw.simpleName (type.arguments.map (clientText env))
          else anyType
      | none => anyType := by
  obtain ⟨hkind, hmap, hcollection⟩ := h
  rcases type with ⟨kind, name, package, component, rawKind, raw, arguments, bounds⟩
  obtain rfl : kind = .parameterized := hkind
  rw [clientText.eq_def, ← clientTexts_eq_map]
  rcases rawKind with - | sort
  · rfl
  · cases sort with
    | map => exact absurd rfl hmap
    | collection => exact absurd rfl hcollection
    | other => rfl

theorem clientText_of_leftOut (h : type.LeftOut env) : type.clientText env = anyType := by
  cases h with
  | generic sort foreign =>
      rw [clientText_of_isGeneric sort]
      cases hraw : type.raw with
      | none => rfl
      | some raw => exact if_neg (Bool.eq_false_iff.mp (foreign raw hraw))
  | unknown hkind =>
      rcases type with ⟨kind, name, package, component, rawKind, raw, arguments, bounds⟩
      obtain rfl : kind = .unknown := hkind
      rw [clientText]
  | composite hkind hforeign =>
      rcases type with ⟨kind, name, package, component, rawKind, raw, arguments, bounds⟩
      obtain rfl : kind = .composite := hkind
      rw [clientText]
      exact if_neg (Bool.eq_false_iff.mp hforeign)
  | array hkind hempty =>
      rcases type with ⟨kind, name, package, component, rawKind, raw, arguments, bounds⟩
      obtain rfl : kind = .array := hkind
      obtain rfl : component = none := hempty
      rw [clientText]

theorem clientText_of_wildcard (h : type.kind = .wildcard) : type.clientText env = anyType := by
  rcases type with ⟨kind, name, package, component, rawKind, raw, arguments, bounds⟩
  obtain rfl : kind = .wildcard := h
  rw [clientText]

end Equations

theorem WellFormed.simpleName_ne_empty {type : TypeRef} (hwell : type.WellFormed)
    (hkind : type.kind = .enumeration ∨ type.kind = .composite ∨ type.kind = .typeVariable) :
    type.simpleName ≠ "" := by
  obtain ⟨own, -, -, -, -⟩ := hwell
  have hnamed : type.hasName = true := by
    rcases hkind with hkind | hkind | hkind <;> simpa [brokenRule?, hkind] using own
  exact of_decide_eq_true hnamed

theorem scalar?_ne_empty {kind : TypeKind} {word : String} (h : kind.scalar? = some word) :
    word ≠ "" := by
  cases kind <;> cases h <;> decide

/-- The client types that several types resolve to read as they should, and none as nothing. -/
structure Read (env : Environment) (types : List TypeRef) (targets : List Target) : Prop where
  same : targets.map (fun target => target.expression.render) = types.map (clientText env)
  some : ∀ type ∈ types, type.clientText env ≠ ""

theorem Read.render_join {types : List TypeRef} {targets : List Target}
    (h : Read env types targets) (hsome : types ≠ []) (wrapper : String) :
    (Target.join targets wrapper).expression.render =
      angled wrapper (types.map (clientText env)) := by
  rw [Target.render_join, h.same]
  exact Expression.wrap_of_forall_ne (by simpa using hsome) (by simpa using h.some) wrapper

mutual

/-- The rules put the text of a client type together from the texts of its parts, none of which is
empty. -/
theorem ResolvesTo.reads : {type : TypeRef} → {target : Target} → ResolvesTo env type target →
    type.WellFormed →
      target.expression.render = type.clientText env ∧ type.clientText env ≠ ""
  | _, _, .scalar hkind, hwell => by
      rw [clientText_of_scalar hkind, Expression.render_ofWord]
      exact ⟨rfl, scalar?_ne_empty hkind⟩
  | _, _, .enumeration hkind, hwell => by
      rw [clientText_of_named (Or.inl hkind), Expression.render_ofWord]
      exact ⟨rfl, hwell.simpleName_ne_empty (Or.inl hkind)⟩
  | _, _, .typeVariable hkind, hwell => by
      rw [clientText_of_named (Or.inr hkind), Expression.render_ofWord]
      exact ⟨rfl, hwell.simpleName_ne_empty (Or.inr (Or.inr hkind))⟩
  | _, _, .composite hkind hadmits, hwell => by
      rw [clientText_of_composite hkind hadmits, render_head]
      have hname := hwell.simpleName_ne_empty (Or.inr (Or.inl hkind))
      exact ⟨rfl, headText_ne_empty hname _⟩
  | _, _, .wrapped hwraps hbelow, hwell => by
      obtain ⟨hsome, hparts⟩ := hwell.of_wraps hwraps
      have hread := hbelow.reads hparts
      rw [clientText_of_wrapped? hwraps]
      exact ⟨hread.render_join hsome _, angled_ne_empty _ _⟩
  | _, _, .generic hsort hraw hadmits hnamed hbelow, hwell => by
      have hread := hbelow.reads hwell.arguments
      rw [clientText_of_isGeneric hsort, hraw]
      simp only [hadmits, if_true]
      exact ⟨hread.render_join (hwell.arguments_ne_nil hsort.kind) _, angled_ne_empty _ _⟩
  | _, _, .wildcard hkind hbelow, hwell => by
      rw [clientText_of_wildcard hkind]
      exact ⟨Expression.render_ofWord _, by decide⟩
  | _, _, .any hleft, hwell => by
      rw [clientText_of_leftOut hleft]
      exact ⟨Expression.render_ofWord _, by decide⟩

theorem ResolveTo.reads : {types : List TypeRef} → {targets : List Target} →
    ResolveTo env types targets → (∀ type ∈ types, type.WellFormed) → Read env types targets
  | _, _, .nil, _ => ⟨rfl, List.forall_mem_nil _⟩
  | _, _, .cons hfirst hothers, hwell => by
      obtain ⟨htype, hrest⟩ := List.forall_mem_cons.mp hwell
      obtain ⟨hsame, hsome⟩ := hfirst.reads htype
      obtain ⟨hsameRest, hsomeRest⟩ := hothers.reads hrest
      exact ⟨by rw [List.map_cons, List.map_cons, hsame, hsameRest],
        List.forall_mem_cons.mpr ⟨hsome, hsomeRest⟩⟩

end

/-- Whether a type keeps a wrapper around its parts in the client: an array, a map, a collection, or
a generic type of a scanned package. -/
def KeepsWrapper (env : Environment) (type : TypeRef) : Prop :=
  type.wrapped?.isSome ∨ type.IsGeneric ∧ ∃ raw ∈ type.raw, env.scope.admits raw.package = true

/-- A wrapper is never given up for the type of all values. -/
theorem KeepsWrapper.clientText_ne_anyType {type : TypeRef} (h : type.KeepsWrapper env) :
    type.clientText env ≠ anyType := by
  rcases h with hwrapped | ⟨hsort, raw, hraw, hadmits⟩
  · obtain ⟨⟨wrapper, parts⟩, hwrapped⟩ := Option.isSome_iff_exists.mp hwrapped
    rw [clientText_of_wrapped? hwrapped]
    exact angled_ne_anyType _ _
  · rw [clientText_of_isGeneric hsort, Option.mem_def.mp hraw]
    simp only [hadmits, if_true]
    exact angled_ne_anyType _ _

/-- A well-formed type that resolves reads as it should, and not as nothing. So does every type that
is met on the way, at any depth, and no wrapper among them is given up for the type of all values.
-/
theorem resolve_reads_as_clientText {type : TypeRef} {target : Target} (hwell : type.WellFormed)
    (h : (type.resolve env).outcome = .ok target) :
    target.expression.render = type.clientText env ∧ target.expression.render ≠ "" ∧
      ∀ part, type.Meets env part → ∃ inner, (part.resolve env).outcome = .ok inner ∧
        inner.expression.render = part.clientText env ∧ inner.expression.render ≠ "" ∧
          (part.KeepsWrapper env → inner.expression.render ≠ anyType) := by
  obtain ⟨hsame, hsome⟩ := (resolvesTo_of_resolve type target h).reads hwell
  refine ⟨hsame, hsame ▸ hsome, fun part hmeets => ?_⟩
  obtain ⟨inner, hinner⟩ := exists_target_of_meets hwell h hmeets
  obtain ⟨hsame, hsome⟩ := (resolvesTo_of_resolve part inner hinner).reads (hwell.of_meets hmeets)
  exact ⟨inner, hinner, hsame, hsame ▸ hsome, fun hkeeps => hsame ▸ hkeeps.clientText_ne_anyType⟩

end TypeRef

namespace Sample

/-- A package with a generic page and a declared user of one parameter without a name. -/
def pages : Environment where
  scope := .ofPackages ["app"]
  declarations := .ofList [
    { name := "Page", package := some "app", typeParameters := ["T"] },
    { name := "User", package := some "app", typeParameters := [""] }]

/-- A map from texts to lists of pages of users. -/
def pagesByName : TypeRef where
  kind := .parameterized
  rawKind := some .map
  arguments := [
    { kind := .string },
    { kind := .parameterized
      rawKind := some .collection
      arguments := [
        { kind := .parameterized
          rawKind := some .other
          raw := some (.named .composite (some "Page") (some "app"))
          arguments := [.named .composite (some "User") (some "app")] }] }]

end Sample

/-- The wrappers stay around a user that reads as any value. -/
theorem TypeRef.resolve_reads_as_clientText_sample :
    Sample.pagesByName.WellFormed ∧
      ∃ target, (Sample.pagesByName.resolve Sample.pages).outcome = .ok target ∧
        target.expression.render = "Map<string, Array<Page<any>>>" := by
  have hwell : Sample.pagesByName.WellFormed := by decide
  obtain ⟨target, h⟩ :
      ∃ target, (Sample.pagesByName.resolve Sample.pages).outcome = .ok target := ⟨_, rfl⟩
  refine ⟨hwell, target, h, ?_⟩
  rw [(resolve_reads_as_clientText hwell h).1]
  decide

end CatalogClient
