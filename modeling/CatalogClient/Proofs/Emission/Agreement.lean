/-
# Environments that no walk can tell apart

A walk asks for the declaration of one type at a time, and of a declaration it sees everything but
the ignored fields. So if two environments scan the same packages and show the same declaration for
every type, then a walk does the same in both, record by record.
-/

import CatalogClient.Proofs.Emission.Closure
import CatalogClient.Proofs.Emission.Decision
import CatalogClient.Proofs.Resolution.Scopes

namespace CatalogClient

/-- A declaration without its ignored fields. -/
def Declaration.visible (declaration : Declaration) : Declaration :=
  { declaration with fields := declaration.visibleFields }

@[simp] theorem Declaration.visibleFields_visible (declaration : Declaration) :
    declaration.visible.visibleFields = declaration.visibleFields := by
  simp [visible, visibleFields]

/-- Two environments scan the same packages, and what they declare of a type differs in ignored
fields at most. -/
structure Environment.Agrees (env other : Environment) : Prop where
  scope : env.scope = other.scope
  visible : ∀ type, (env.declarations.find? type).map Declaration.visible =
    (other.declarations.find? type).map Declaration.visible

namespace Environment.Agrees

variable {env other : Environment}

theorem symm (h : env.Agrees other) : other.Agrees env :=
  ⟨h.scope.symm, fun type => (h.visible type).symm⟩

/-- Whatever an ignored field has no part in is the same in both environments. -/
theorem map_find? {α : Type} (h : env.Agrees other) (type : TypeRef) {view : Declaration → α}
    (hview : ∀ declaration : Declaration, view declaration.visible = view declaration) :
    (env.declarations.find? type).map view = (other.declarations.find? type).map view := by
  have hsame := congrArg (Option.map view) (h.visible type)
  simp only [Option.map_map] at hsame
  rwa [show view ∘ Declaration.visible = view from funext hview] at hsame

theorem typeParameters (h : env.Agrees other) (type : TypeRef) :
    (env.declarations.find? type).map Declaration.typeParameters =
      (other.declarations.find? type).map Declaration.typeParameters :=
  h.map_find? type fun _ => rfl

theorem constants (h : env.Agrees other) (type : TypeRef) :
    (env.declarations.find? type).map Declaration.constants =
      (other.declarations.find? type).map Declaration.constants :=
  h.map_find? type fun _ => rfl

theorem visibleFields (h : env.Agrees other) (type : TypeRef) :
    (env.declarations.find? type).map Declaration.visibleFields =
      (other.declarations.find? type).map Declaration.visibleFields :=
  h.map_find? type Declaration.visibleFields_visible

theorem find?_eq_none (h : env.Agrees other) {type : TypeRef}
    (habsent : env.declarations.find? type = none) : other.declarations.find? type = none := by
  have hsame := h.visible type
  rw [habsent] at hsame
  exact Option.map_eq_none_iff.mp hsame.symm

theorem find?_eq_some (h : env.Agrees other) {type : TypeRef} {declaration : Declaration}
    (hfound : env.declarations.find? type = some declaration) :
    ∃ declaration', other.declarations.find? type = some declaration' ∧
      declaration'.typeParameters = declaration.typeParameters ∧
      declaration'.visibleFields = declaration.visibleFields := by
  have hsame := h.visible type
  rw [hfound] at hsame
  obtain ⟨declaration', hfound', hvisible⟩ := Option.map_eq_some_iff.mp hsame.symm
  have hparameters := congrArg Declaration.typeParameters hvisible
  refine ⟨declaration', hfound', hparameters, ?_⟩
  simpa using congrArg Declaration.visibleFields hvisible

theorem resolvesAs (h : env.Agrees other) : env.ResolvesAs other :=
  ⟨fun package => by rw [h.scope], h.typeParameters⟩

end Environment.Agrees

namespace TypeRef

variable {env other : Environment}

/-- A type is resolved in the same way, with the same records. -/
theorem resolve_congr (h : env.Agrees other) (type : TypeRef) :
    type.resolve env = type.resolve other :=
  resolve_eq_of_resolvesAs h.resolvesAs type

theorem discovered_congr (h : env.Agrees other) (type : TypeRef) :
    type.discovered env = type.discovered other := by
  rw [discovered, discovered, resolve_congr h]

theorem interfaceFile_congr (h : env.Agrees other) (type : TypeRef) :
    type.interfaceFile env = type.interfaceFile other := by
  unfold interfaceFile resolveFields
  simp only [resolve_congr h, h.visibleFields, h.typeParameters]

theorem sourceFile_congr (h : env.Agrees other) (type : TypeRef) :
    type.sourceFile env = type.sourceFile other := by
  unfold sourceFile enumerationFile
  rw [h.constants, interfaceFile_congr h]

end TypeRef

/-- The fields of a type lead to the same types. -/
theorem Environment.Agrees.successors {env other : Environment} (h : env.Agrees other)
    (type : TypeRef) : env.successors type = other.successors type := by
  have hdiscovered : Field.discovered env = Field.discovered other :=
    funext fun field => field.type.discovered_congr h
  by_cases hkind : type.kind = .composite
  · cases hfound : env.declarations.find? type with
    | none => rw [successors_of_absent hfound, successors_of_absent (h.find?_eq_none hfound)]
    | some declaration =>
        obtain ⟨declaration', hfound', -, hfields⟩ := h.find?_eq_some hfound
        rw [successors_of_find? hkind hfound, successors_of_find? hkind hfound', hfields,
          hdiscovered]
  · rw [successors_of_kind_ne hkind, successors_of_kind_ne hkind]

/-- The same types are reached. -/
theorem Environment.Agrees.reaches {env other : Environment} (h : env.Agrees other)
    {roots : List TypeRef} {type : TypeRef} (hreached : env.Reaches roots type) :
    other.Reaches roots type := by
  induction hreached with
  | root member => exact .root member
  | field _ member ih => exact .field ih (h.successors _ ▸ member)

namespace Emission

variable {env other : Environment}

theorem finishInterface_congr {declaration declaration' : Declaration}
    (hsame : declaration'.typeParameters = declaration.typeParameters) (emission : Emission)
    (type : TypeRef) (members : List Argument) (imports : List String) :
    emission.finishInterface type (some declaration') members imports =
      emission.finishInterface type (some declaration) members imports := by
  simp only [finishInterface, Option.map_some, hsame]

mutual

/-- A walk does the same in both environments, rule by rule. -/
theorem EmitsAll.congr (h : env.Agrees other) {start next : Emission} {types : List TypeRef}
    {outcome : Except Rejection Unit} (hemits : EmitsAll env start types next outcome) :
    EmitsAll other start types next outcome := by
  match hemits with
  | .nil => exact .nil
  | .stop first => exact .stop (first.congr h)
  | .cons first others => exact .cons (first.congr h) (others.congr h)

theorem Emits.congr (h : env.Agrees other) {start next : Emission} {type : TypeRef}
    {outcome : Except Rejection (Option String)} (hemits : Emits env start type next outcome) :
    Emits other start type next outcome := by
  match hemits with
  | .passed plain => exact .passed plain
  | .taken declared closed => exact .taken declared closed
  | .enumeration kind opened =>
      rw [h.constants]
      exact .enumeration kind opened
  | .undeclared kind opened absent => exact .undeclared kind opened (h.find?_eq_none absent)
  | .unfinished kind opened found members =>
      obtain ⟨declaration', hfound', -, hfields⟩ := h.find?_eq_some found
      exact .unfinished kind opened hfound' (hfields ▸ members.congr h)
  | .interface kind opened found members =>
      obtain ⟨declaration', hfound', hparameters, hfields⟩ := h.find?_eq_some found
      rw [← finishInterface_congr hparameters]
      exact .interface kind opened hfound' (hfields ▸ members.congr h)

theorem Follows.congr (h : env.Agrees other) {start next : Emission} {owner : String}
    {fields : List Field} {members : List Argument} {imports : List String}
    {outcome : Except Rejection (List Argument × List String)}
    (hfollows : Follows env start owner fields members imports next outcome) :
    Follows other start owner fields members imports next outcome := by
  match hfollows with
  | .done => exact .done
  | .unresolved resolved =>
      rw [TypeRef.resolve_congr h] at resolved ⊢
      exact .unresolved resolved
  | .blocked resolved below =>
      have hbelow := below.congr h
      rw [TypeRef.resolve_congr h] at resolved hbelow
      exact .blocked resolved hbelow
  | .field resolved below others =>
      have hbelow := below.congr h
      rw [TypeRef.resolve_congr h] at resolved hbelow
      exact .field resolved hbelow (others.congr h)

end

end Emission

namespace Emitting

variable {env other : Environment}

theorem emit_congr (h : env.Agrees other) (types : List TypeRef) :
    emit env types = emit other types := by
  funext start
  have hemits : Emission.EmitsAll env start types (emit env types start).1
      (emit env types start).2 := Emission.emitsAll_iff.mpr rfl
  exact (Emission.emitsAll_iff.mp (hemits.congr h)).symm

/-- A type is mapped in the same way, whatever has been emitted before. -/
theorem map_congr (h : env.Agrees other) : Emitting.map env = Emitting.map other := by
  funext type
  simp only [Emitting.map, TypeRef.resolve_congr h, emit_congr h]

end Emitting

end CatalogClient
