/-
# Levels of type references

A type reference is made of other references, which stand one level below it. A catalog that is
accepted has only references with a limited number of levels, and the resolution of a reference goes
down its levels one by one. So it ends after at most as many.
-/

import CatalogClient.Emission.Target
import CatalogClient.Proofs.Catalog.Reading

namespace CatalogClient

open Validated

namespace TypeRef

/-- A reference with at most so many levels, itself included. -/
inductive Within : Nat → TypeRef → Prop
  | intro {levels : Nat} {type : TypeRef}
      (component : ∀ inner ∈ type.component, inner.Within levels)
      (raw : ∀ inner ∈ type.raw, inner.Within levels)
      (arguments : ∀ inner ∈ type.arguments, inner.Within levels)
      (bounds : ∀ inner ∈ type.bounds, inner.Within levels) : type.Within (levels + 1)

/-- Inside other references there is less room for levels. -/
theorem yields_within (room : Nat) (document : Document) (above : List Path) (place : Place) :
    (readUnder room document above place).Yields (Within (room - above.length)) := by
  fun_induction readUnder room document above place with
  | case1 => exact .complain _
  | case2 => exact .complain _
  | case3 => exact .complain _
  | case4 above path members hreached hfresh hroom inner fields read ih =>
      have hinner : ∀ place, (inner document place).Yields
          (Within (room - (path :: above).length)) := ih
      have hoption : ∀ name, (fields.withDefault name none (inner.optional document)).Yields
          fun value => ∀ part ∈ value, part.Within (room - (path :: above).length) := fun name =>
        Keyed.yields_withDefault fields name (by simp) (Reader.yields_optional hinner)
      have hlist : ∀ name, (fields.withDefault name [] (inner.list .notTuple document)).Yields
          fun values => ∀ part ∈ values, part.Within (room - (path :: above).length) := fun name =>
        Keyed.yields_withDefault fields name (by simp) (Reader.yields_list hinner .notTuple)
      have hlevels : room - above.length = room - (path :: above).length + 1 := by
        rw [List.length_cons]
        omega
      have hread : read.Yields (Within (room - above.length)) := by
        rw [hlevels]
        refine .seq (.seq (.seq (.seq (.seq (.seq (.seq (.map (.trivial _) ?_) (.trivial _))
          (.trivial _)) (hoption _)) (.trivial _)) (hoption _)) (hlist _)) (hlist _)
        intro kind _ name _ package _ component hcomponent rawKind _ raw hraw arguments harguments
          bounds hbounds
        exact ⟨hcomponent, hraw, harguments, hbounds⟩
      exact fun type htype => (hread.check _ type htype).1
  | case5 => exact .complain _

/-- A reference that is made of no others has one level. -/
theorem within_bare (kind : TypeKind) (levels : Nat) : Within (levels + 1) { kind } :=
  ⟨nofun, nofun, nofun, nofun⟩

variable (env : Environment)

/-- The client types of the references in a list, given how each of them is resolved. -/
def resolveEach (inner : TypeRef → Logged Rejection Target) :
    List TypeRef → Logged Rejection (List Target)
  | [] => .done []
  | type :: rest => do
      let target ← inner type
      let targets ← resolveEach inner rest
      return target :: targets

/-- The client type of a reference, given how the references one level below are resolved. -/
def resolveLevel (inner : TypeRef → Logged Rejection Target) (type : TypeRef) :
    Logged Rejection Target :=
  match type.kind with
  | .array =>
      match type.component with
      | some component => do
          let target ← inner component
          return { target with expression := .group [target.expression] (some "Array") }
      | none => .done .any
  | .enumeration =>
      .done
        { expression := .ofWord (type.name.getD ""), contributing := [type], discovered := [type] }
  | .composite => resolveComposite env type
  | .parameterized =>
      match type.rawKind with
      | some .map => do return .join (← resolveEach inner type.arguments) "Map"
      | some .collection => do return .join (← resolveEach inner type.arguments) "Array"
      | _ =>
          match type.raw with
          | some raw =>
              if env.scope.admits raw.package then do
                .ofExcept (joinRaw raw (← resolveEach inner type.arguments))
              else .done .any
          | none => .done .any
  | .typeVariable => .done { expression := .ofWord (type.name.getD "") }
  | .wildcard => do
      let targets ← resolveEach inner type.bounds
      return { expression := .any, discovered := targets.flatMap Target.discovered }
  | .unknown => .done .any
  | .void | .primitive | .string | .boolean | .number =>
      .done { expression := .ofWord (type.kind.scalar?.getD ""), contributing := [type] }

theorem resolveEach_resolve (types : List TypeRef) :
    resolveEach (resolve env) types = resolveAll env types := by
  induction types with
  | nil => rw [resolveEach, resolveAll]
  | cons type rest ih => rw [resolveEach, resolveAll, ih]

/-- The resolution goes down one level. -/
theorem resolve_eq_resolveLevel (type : TypeRef) :
    type.resolve env = resolveLevel env (resolve env) type := by
  obtain ⟨kind, name, package, component, rawKind, raw, arguments, bounds⟩ := type
  cases kind with
  | array => cases component <;> simp only [resolve, resolveLevel]
  | parameterized =>
      cases rawKind with
      | none => cases raw <;> simp only [resolve, resolveLevel, resolveEach_resolve]
      | some rawKind =>
          cases rawKind <;> cases raw <;>
            simp only [resolve, resolveLevel, resolveEach_resolve]
  | _ => simp only [resolve, resolveLevel, resolveEach_resolve]

theorem resolveEach_congr {inner inner' : TypeRef → Logged Rejection Target} {types : List TypeRef}
    (h : ∀ type ∈ types, inner type = inner' type) :
    resolveEach inner types = resolveEach inner' types := by
  induction types with
  | nil => rfl
  | cons type rest ih =>
      obtain ⟨htype, hrest⟩ := List.forall_mem_cons.mp h
      rw [resolveEach, resolveEach, htype, ih hrest]

/-- Only the references one level below matter. -/
theorem resolveLevel_congr {inner inner' : TypeRef → Logged Rejection Target} {type : TypeRef}
    (hcomponent : ∀ part ∈ type.component, inner part = inner' part)
    (harguments : ∀ part ∈ type.arguments, inner part = inner' part)
    (hbounds : ∀ part ∈ type.bounds, inner part = inner' part) :
    resolveLevel env inner type = resolveLevel env inner' type := by
  obtain ⟨kind, name, package, component, rawKind, raw, arguments, bounds⟩ := type
  unfold resolveLevel
  rw [resolveEach_congr harguments, resolveEach_congr hbounds]
  cases kind <;> try rfl
  cases component with
  | none => rfl
  | some component => simp only [hcomponent component rfl]

/-- The resolution down to some level, and anything else below it. -/
def resolveDown (beyond : TypeRef → Logged Rejection Target) :
    Nat → TypeRef → Logged Rejection Target
  | 0 => beyond
  | levels + 1 => resolveLevel env (resolveDown beyond levels)

/-- A reference is resolved within its levels, so it does not matter what lies below them. -/
theorem resolveDown_of_within (beyond : TypeRef → Logged Rejection Target) {levels : Nat}
    {type : TypeRef} (h : type.Within levels) :
    resolveDown env beyond levels type = type.resolve env := by
  induction levels generalizing type with
  | zero => cases h
  | succ levels ih =>
      obtain ⟨hcomponent, -, harguments, hbounds⟩ := h
      rw [resolveDown, resolve_eq_resolveLevel]
      exact resolveLevel_congr env (fun part hpart => ih (hcomponent part hpart))
        (fun part hpart => ih (harguments part hpart)) (fun part hpart => ih (hbounds part hpart))

end TypeRef

end CatalogClient
