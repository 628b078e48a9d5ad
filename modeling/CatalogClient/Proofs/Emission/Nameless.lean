/-
# Generic types without a name

A generic type of a scanned package keeps its own name in the client. It is the raw type that has
this name, and validation asks no name of a raw type of another kind than a declared one. So a
resolution can meet a raw type that it has no name for, and this is the only thing that it fails at.
-/

import CatalogClient.Emission.Target
import CatalogClient.Proofs.Catalog.WellFormed

namespace CatalogClient

namespace TypeRef

variable {env : Environment}

/-- The parts of a type that its resolution resolves as well: the component of an array, the bounds
of a wildcard, and the arguments of a map, a collection, or a generic type of a scanned package. -/
def resolvedParts (env : Environment) (type : TypeRef) : List TypeRef :=
  match type.kind with
  | .array => type.component.toList
  | .wildcard => type.bounds
  | .parameterized =>
      match type.rawKind with
      | some .map | some .collection => type.arguments
      | _ => if type.raw.any fun raw => env.scope.admits raw.package then type.arguments else []
  | _ => []

/-- The types that the resolution of a type meets: the type itself, and what the resolutions of its
parts meet. -/
inductive Meets (env : Environment) : TypeRef → TypeRef → Prop
  | self {type : TypeRef} : Meets env type type
  | part {type inner found : TypeRef} (member : inner ∈ type.resolvedParts env)
      (below : Meets env inner found) : Meets env type found

/-- A generic type of a scanned package that has no name to keep. -/
structure LacksRawName (env : Environment) (type : TypeRef) : Prop where
  kind : type.kind = .parameterized
  sort : type.rawKind = some .other
  raw : ∃ raw ∈ type.raw, env.scope.admits raw.package = true ∧ raw.hasName = false

/-- Whether the resolution of a type meets a generic type without a name. -/
def Unnameable (env : Environment) (type : TypeRef) : Prop :=
  ∃ found, type.Meets env found ∧ found.LacksRawName env

/-- The rejection of a declared type without a name. -/
def namelessRejection : Rejection :=
  ⟨"TypeDescriptor", [⟨[], .shape (.name .composite)⟩]⟩

theorem unnameable_iff {type : TypeRef} :
    type.Unnameable env ↔
      type.LacksRawName env ∨ ∃ inner ∈ type.resolvedParts env, inner.Unnameable env := by
  constructor
  · rintro ⟨found, hmeets, hlacks⟩
    cases hmeets with
    | self => exact Or.inl hlacks
    | part member below => exact Or.inr ⟨_, member, found, below, hlacks⟩
  · rintro (hlacks | ⟨inner, member, found, hmeets, hlacks⟩)
    · exact ⟨type, .self, hlacks⟩
    · exact ⟨found, .part member hmeets, hlacks⟩

/-- The name of a raw type is checked, and nothing else about it. -/
theorem joinRaw_eq (raw : TypeRef) (arguments : List Target) :
    joinRaw raw arguments =
      if raw.hasName then
        .ok { Target.join arguments (raw.name.getD "") with
          discovered := named .composite raw.name raw.package ::
            arguments.flatMap Target.discovered }
      else .error namelessRejection := by
  have hrule : (named .composite raw.name raw.package).brokenRule? =
      if raw.hasName then none else some (.name .composite) := rfl
  unfold joinRaw checked
  rw [hrule]
  cases raw.hasName <;> rfl

/-- What the outcome of a resolution says of the types that were resolved: it fails exactly if one
of them cannot be named, and then in one way. -/
structure Tells (env : Environment) (types : List TypeRef) {α : Type}
    (outcome : Except Rejection α) : Prop where
  returned : ∀ value, outcome = .ok value → ∀ type ∈ types, ¬type.Unnameable env
  failed : ∀ rejection, outcome = .error rejection →
    rejection = namelessRejection ∧ ∃ type ∈ types, type.Unnameable env

namespace Tells

variable {α β : Type} {type : TypeRef} {types : List TypeRef}

/-- What is made of the outcome has no part in what it says. -/
theorem bind {outcome : Except Rejection α} {next : α → Except Rejection β}
    (h : Tells env types outcome) (hnext : ∀ value, ∃ result, next value = .ok result) :
    Tells env types (outcome >>= next) := by
  cases outcome with
  | error rejection =>
      refine ⟨nofun, fun other herror => ?_⟩
      obtain rfl := Except.error.inj herror
      exact h.failed _ rfl
  | ok value =>
      obtain ⟨result, hresult⟩ := hnext value
      refine ⟨fun _ _ => h.returned value rfl, fun other herror => ?_⟩
      cases hresult.symm.trans herror

/-- A type whose parts are resolved, and that is no nameless generic type itself, is told of by
their outcome. -/
theorem of_parts {outcome : Except Rejection α} (hown : ¬type.LacksRawName env)
    (h : Tells env (type.resolvedParts env) outcome) : Tells env [type] outcome := by
  constructor
  · intro value hok
    rw [List.forall_mem_singleton, unnameable_iff]
    rintro (hlacks | ⟨inner, member, hinner⟩)
    · exact hown hlacks
    · exact h.returned value hok inner member hinner
  · intro rejection herror
    obtain ⟨hrejection, hinner⟩ := h.failed rejection herror
    exact ⟨hrejection, type, List.mem_singleton_self _, unnameable_iff.mpr (Or.inr hinner)⟩

/-- A type without parts resolves. -/
theorem of_leaf (hown : ¬type.LacksRawName env) (hparts : type.resolvedParts env = [])
    (value : α) : Tells env [type] (.ok value) := by
  apply of_parts hown
  rw [hparts]
  exact ⟨fun _ _ => List.forall_mem_nil _, nofun⟩

/-- A type that cannot be named does not resolve. -/
theorem of_unnameable {outcome : Except Rejection α} (hown : type.Unnameable env)
    (herror : outcome = .error namelessRejection) : Tells env [type] outcome := by
  subst herror
  refine ⟨nofun, fun rejection hsame => ?_⟩
  exact ⟨(Except.error.inj hsame).symm, type, List.mem_singleton_self _, hown⟩

/-- Types are told of by the outcomes for the first one and for the rest. -/
theorem cons {rest : List TypeRef} {first : Except Rejection α}
    {others : Except Rejection (List α)} (hfirst : Tells env [type] first)
    (hrest : Tells env rest others) :
    Tells env (type :: rest)
      (first >>= fun value => others >>= fun values => .ok (value :: values)) := by
  cases first with
  | error rejection =>
      refine ⟨nofun, fun other herror => ?_⟩
      obtain rfl := Except.error.inj herror
      obtain ⟨hrejection, hfound⟩ := hfirst.failed _ rfl
      refine ⟨hrejection, type, List.mem_cons_self, ?_⟩
      simpa using hfound
  | ok value =>
      have hown : ¬type.Unnameable env := by simpa using hfirst.returned value rfl
      cases others with
      | error rejection =>
          refine ⟨nofun, fun other herror => ?_⟩
          obtain rfl := Except.error.inj herror
          obtain ⟨hrejection, found, hmem, hfound⟩ := hrest.failed _ rfl
          exact ⟨hrejection, found, List.mem_cons_of_mem _ hmem, hfound⟩
      | ok values =>
          exact ⟨fun _ _ => List.forall_mem_cons.mpr ⟨hown, hrest.returned values rfl⟩, nofun⟩

end Tells

/-- A generic type is told of by its arguments and by the name of its raw type, if that is of a
scanned package. -/
private theorem tells_generic {type raw : TypeRef} (hkind : type.kind = .parameterized)
    (hsort : type.rawKind = some .other) (hraw : type.raw = some raw)
    (harguments : Tells env type.arguments (resolveAll env type.arguments).outcome) :
    Tells env [type]
      (if env.scope.admits raw.package then do
          .ofExcept (joinRaw raw (← resolveAll env type.arguments))
        else .done .any : Logged Rejection Target).outcome := by
  have hparts : type.resolvedParts env =
      if env.scope.admits raw.package then type.arguments else [] := by
    simp [resolvedParts, hkind, hsort, hraw]
  have hlacks : type.LacksRawName env →
      env.scope.admits raw.package = true ∧ raw.hasName = false := by
    rintro ⟨-, -, found, hfound, hlacks⟩
    obtain rfl := Option.some.inj (hraw.symm.trans hfound)
    exact hlacks
  by_cases hadmits : env.scope.admits raw.package = true
  · rw [if_pos hadmits] at hparts ⊢
    rw [Logged.bind_outcome]
    by_cases hnamed : raw.hasName = true
    · refine .of_parts (fun hown => ?_) ?_
      · rw [(hlacks hown).2] at hnamed
        cases hnamed
      · rw [hparts]
        exact harguments.bind fun targets => ⟨_, (joinRaw_eq raw targets).trans (if_pos hnamed)⟩
    · have hown : type.Unnameable env :=
        ⟨type, .self, hkind, hsort, raw, hraw, hadmits, Bool.not_eq_true _ ▸ hnamed⟩
      apply Tells.of_unnameable hown
      cases hresolved : (resolveAll env type.arguments).outcome with
      | error rejection => exact congrArg Except.error (harguments.failed _ hresolved).1
      | ok targets => exact (joinRaw_eq raw targets).trans (if_neg hnamed)
  · rw [if_neg hadmits] at hparts ⊢
    exact .of_leaf (fun hown => hadmits (hlacks hown).1) hparts _

mutual

/-- The argument follows the recursion of the resolution, whose parts are well-formed as well. -/
theorem tells_resolve : (type : TypeRef) → type.WellFormed →
    Tells env [type] (type.resolve env).outcome
  | ⟨kind, name, package, component, rawKind, raw, arguments, bounds⟩, hwell => by
      have harguments := tells_resolveAll arguments hwell.arguments
      have hbounds := tells_resolveAll bounds hwell.bounds
      have hplain : kind ≠ .parameterized → ¬LacksRawName env
          ⟨kind, name, package, component, rawKind, raw, arguments, bounds⟩ :=
        fun hkind hlacks => hkind hlacks.kind
      rw [resolve.eq_def]
      cases kind with
      | array =>
          cases component with
          | none => exact .of_leaf (hplain nofun) rfl _
          | some inner =>
              obtain ⟨-, hcomponent, -, -, -⟩ := hwell
              have hinner := tells_resolve inner (hcomponent inner rfl)
              refine .of_parts (hplain nofun) ?_
              simp only [Logged.bind_outcome]
              exact hinner.bind fun target => ⟨_, rfl⟩
      | composite =>
          have houtcome : ∃ target, (resolveComposite env
              ⟨.composite, name, package, component, rawKind, raw, arguments, bounds⟩).outcome =
                .ok target := by
            unfold resolveComposite
            split
            · exact ⟨_, rfl⟩
            · exact ⟨_, rfl⟩
          obtain ⟨target, htarget⟩ := houtcome
          simp only [htarget]
          exact .of_leaf (hplain nofun) rfl _
      | parameterized =>
          obtain ⟨hrule, -, -, -, -⟩ := hwell
          cases rawKind with
          | none => cases hrule
          | some sort =>
              have hsort : sort ≠ .other → ¬LacksRawName env
                  ⟨.parameterized, name, package, component, some sort, raw, arguments, bounds⟩ :=
                fun hsort hlacks => hsort (Option.some.inj hlacks.sort)
              cases sort with
              | map =>
                  refine .of_parts (hsort nofun) ?_
                  simp only [Logged.bind_outcome]
                  exact harguments.bind fun targets => ⟨_, rfl⟩
              | collection =>
                  refine .of_parts (hsort nofun) ?_
                  simp only [Logged.bind_outcome]
                  exact harguments.bind fun targets => ⟨_, rfl⟩
              | other =>
                  cases raw with
                  | none =>
                      refine .of_leaf ?_ rfl _
                      rintro ⟨-, -, found, hfound, -⟩
                      cases hfound
                  | some raw => exact tells_generic rfl rfl rfl harguments
      | wildcard =>
          refine .of_parts (hplain nofun) ?_
          simp only [Logged.bind_outcome]
          exact hbounds.bind fun targets => ⟨_, rfl⟩
      | enumeration | typeVariable | unknown | void | primitive | string | boolean | number =>
          exact .of_leaf (hplain nofun) rfl _

theorem tells_resolveAll : (types : List TypeRef) → (∀ type ∈ types, type.WellFormed) →
    Tells env types (resolveAll env types).outcome
  | [], _ => by
      rw [resolveAll]
      exact ⟨fun _ _ => List.forall_mem_nil _, nofun⟩
  | type :: rest, hwell => by
      obtain ⟨htype, hrest⟩ := List.forall_mem_cons.mp hwell
      rw [resolveAll]
      simp only [Logged.bind_outcome]
      exact .cons (tells_resolve type htype) (tells_resolveAll rest hrest)

end

/-- A well-formed type fails to resolve exactly where a generic type without a name is met, and
always in the same way. -/
theorem resolve_eq_error_iff {type : TypeRef} (hwell : type.WellFormed) {rejection : Rejection} :
    (type.resolve env).outcome = .error rejection ↔
      rejection = namelessRejection ∧ type.Unnameable env := by
  have htells : Tells env [type] (type.resolve env).outcome := tells_resolve type hwell
  constructor
  · intro herror
    simpa using htells.failed rejection herror
  · rintro ⟨rfl, hown⟩
    cases hresolve : (type.resolve env).outcome with
    | ok target => exact absurd hown (htells.returned target hresolve type (by simp))
    | error rejection => rw [(htells.failed rejection hresolve).1]

end TypeRef

end CatalogClient
