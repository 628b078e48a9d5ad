/-
# What a client type is spelled with

The expression of a client type is made of names: words, and wrappers with arguments. Some are the
names of declared types: of enumerations, of composite types in scanned packages, and of the raw
types of generic ones. All others stand for themselves: scalars, the wrappers of arrays and maps,
type variables, and the parameters of a declaration. What a type is spelled with is stated here
apart from its expression, and every declared type among it has to be generated.
-/

import CatalogClient.Proofs.Resolution

namespace CatalogClient

namespace Expression

mutual

/-- The words and the wrappers of an expression, in the order in which they stand. -/
def names : Expression → List String
  | .word text => [text]
  | .group items wrapper => wrapper.toList ++ namesAll items

/-- The words and the wrappers of several expressions. -/
def namesAll : List Expression → List String
  | [] => []
  | item :: rest => names item ++ namesAll rest

end

theorem namesAll_words (words : List String) : namesAll (words.map .word) = words := by
  induction words with
  | nil => rfl
  | cons word rest ih =>
      rw [List.map_cons, namesAll, ih]
      rfl

end Expression

/-- A name in a client type: that of a declared type, or a word that stands for itself. -/
inductive Spelling
  | declared (type : TypeRef)
  | plain (word : String)

/-- The text of a name. -/
def Spelling.text : Spelling → String
  | .declared type => type.simpleName
  | .plain word => word

namespace TypeRef

/-- The names in the client type of a generic type: the name of the raw type and those of the
arguments, if the raw type is of a scanned package. -/
def genericSpellings (env : Environment) (raw : Option TypeRef) (arguments : List Spelling) :
    List Spelling :=
  match raw with
  | some raw =>
      if env.scope.admits raw.package then .declared raw :: arguments else [.plain anyType]
  | none => [.plain anyType]

mutual

/-- The names in the client type of a server type, in the order in which they stand. -/
def spellings (env : Environment) : TypeRef → List Spelling
  | ⟨kind, name, package, component, rawKind, raw, arguments, bounds⟩ =>
      let type : TypeRef := ⟨kind, name, package, component, rawKind, raw, arguments, bounds⟩
      match kind with
      | .array =>
          match component with
          | some inner => .plain "Array" :: spellings env inner
          | none => [.plain anyType]
      | .enumeration => [.declared type]
      | .composite =>
          if env.scope.admits package then
            .declared type ::
              (((env.declarations.find? type).map Declaration.typeParameters).getD []).map .plain
          else [.plain anyType]
      | .parameterized =>
          match rawKind with
          | some .map => .plain "Map" :: spellingsAll env arguments
          | some .collection => .plain "Array" :: spellingsAll env arguments
          | _ => genericSpellings env raw (spellingsAll env arguments)
      | .typeVariable => [.plain (name.getD "")]
      | .wildcard | .unknown => [.plain anyType]
      | .void | .primitive | .string | .boolean | .number => [.plain (kind.scalar?.getD "")]

/-- The names in the client types of several server types. -/
def spellingsAll (env : Environment) : List TypeRef → List Spelling
  | [] => []
  | type :: rest => spellings env type ++ spellingsAll env rest

end

end TypeRef

/-- A target whose expression is made of the given names, and that has every declared type among
them generated. -/
structure Target.SpelledBy (target : Target) (spellings : List Spelling) : Prop where
  names : target.expression.names = spellings.map Spelling.text
  generated : ∀ type, .declared type ∈ spellings →
    type.simpleName ∈ simpleNames target.discovered

namespace Target.SpelledBy

/-- A target of a single word. -/
theorem word (text : String) (contributing discovered : List TypeRef) :
    SpelledBy { expression := .ofWord text, contributing, discovered } [.plain text] where
  names := rfl
  generated := by simp

/-- A target of a declared type and of words after its name. -/
theorem single {target : Target} {type : TypeRef} {words : List String}
    (hnames : target.expression.names = type.simpleName :: words)
    (hdiscovered : target.discovered = [type]) :
    target.SpelledBy (.declared type :: words.map .plain) where
  names := by
    rw [hnames, List.map_cons, List.map_map]
    simp [Function.comp_def, Spelling.text]
  generated := by
    intro other hmem
    rcases List.mem_cons.mp hmem with hsame | hword
    · cases hsame
      simp [hdiscovered, simpleNames]
    · simp at hword

end Target.SpelledBy

/-- Targets that are spelled by the given names one after the other. -/
structure TargetsSpelledBy (targets : List Target) (spellings : List Spelling) : Prop where
  names : Expression.namesAll (targets.map Target.expression) = spellings.map Spelling.text
  generated : ∀ type, .declared type ∈ spellings →
    type.simpleName ∈ simpleNames (targets.flatMap Target.discovered)

namespace TargetsSpelledBy

theorem nil : TargetsSpelledBy [] [] :=
  ⟨rfl, by simp⟩

theorem cons {target : Target} {targets : List Target} {spellings others : List Spelling}
    (h : target.SpelledBy spellings) (hrest : TargetsSpelledBy targets others) :
    TargetsSpelledBy (target :: targets) (spellings ++ others) where
  names := by
    rw [List.map_cons, Expression.namesAll, h.names, hrest.names, List.map_append]
  generated := by
    intro type hmem
    rw [List.flatMap_cons, simpleNames, List.map_append, List.mem_append]
    rcases List.mem_append.mp hmem with hfirst | hother
    · exact Or.inl (h.generated type hfirst)
    · exact Or.inr (hrest.generated type hother)

/-- A word around the targets is one more name in front. -/
theorem join {targets : List Target} {spellings : List Spelling}
    (h : TargetsSpelledBy targets spellings) (wrapper : String) :
    (Target.join targets wrapper).SpelledBy (.plain wrapper :: spellings) where
  names := by
    change [wrapper] ++ Expression.namesAll (targets.map Target.expression) = _
    rw [h.names]
    rfl
  generated := by
    intro type hmem
    rcases List.mem_cons.mp hmem with hsame | hmem
    · cases hsame
    · exact h.generated type hmem

/-- The raw type of a generic type is generated under the name that stands before the arguments. -/
theorem withRaw {targets : List Target} {spellings : List Spelling} {raw : TypeRef}
    (h : TargetsSpelledBy targets spellings) :
    Target.SpelledBy
      { Target.join targets raw.simpleName with
        discovered := .named .composite raw.name raw.package ::
          targets.flatMap Target.discovered } (.declared raw :: spellings) where
  names := (h.join raw.simpleName).names
  generated := by
    intro type hmem
    rcases List.mem_cons.mp hmem with hsame | hmem
    · cases hsame
      exact List.mem_cons_self
    · exact List.mem_cons_of_mem _ (h.generated type hmem)

end TargetsSpelledBy

namespace TypeRef

variable {env : Environment}

theorem names_head (type : TypeRef) :
    (type.head env).names = type.simpleName :: type.parameters env := by
  unfold head
  split
  · next hempty =>
      rw [List.isEmpty_iff.mp hempty]
      rfl
  · change [type.simpleName] ++ Expression.namesAll (List.map .word _) = _
    rw [Expression.namesAll_words]
    rfl

section Equations

variable {type : TypeRef}

theorem spellings_of_scalar {word : String} (h : type.kind.scalar? = some word) :
    type.spellings env = [.plain word] := by
  rcases type with ⟨kind, name, package, component, rawKind, raw, arguments, bounds⟩
  cases kind <;> simp_all [TypeKind.scalar?, spellings]

theorem spellings_of_composite (h : type.kind = .composite)
    (hadmits : env.scope.admits type.package = true) :
    type.spellings env = .declared type :: (type.parameters env).map .plain := by
  rcases type with ⟨kind, name, package, component, rawKind, raw, arguments, bounds⟩
  obtain rfl : kind = .composite := h
  rw [spellings]
  exact if_pos hadmits

theorem spellings_of_wrapped? {wrapper : String} {parts : List TypeRef}
    (h : type.wrapped? = some (wrapper, parts)) :
    type.spellings env = .plain wrapper :: spellingsAll env parts := by
  rcases type with ⟨kind, name, package, component, rawKind, raw, arguments, bounds⟩
  unfold wrapped? at h
  cases kind with
  | array =>
      obtain ⟨inner, rfl, hsame⟩ := Option.map_eq_some_iff.mp h
      cases hsame
      rw [spellings, spellingsAll, spellingsAll, List.append_nil]
  | parameterized =>
      rcases rawKind with - | sort
      · cases h
      · cases sort with
        | map | collection =>
            cases h
            rw [spellings]
        | other => cases h
  | _ => cases h

theorem spellings_of_isGeneric (h : type.IsGeneric) :
    type.spellings env = genericSpellings env type.raw (spellingsAll env type.arguments) := by
  obtain ⟨hkind, hmap, hcollection⟩ := h
  rcases type with ⟨kind, name, package, component, rawKind, raw, arguments, bounds⟩
  obtain rfl : kind = .parameterized := hkind
  rw [spellings.eq_def]
  rcases rawKind with - | sort
  · rfl
  · cases sort with
    | map => exact absurd rfl hmap
    | collection => exact absurd rfl hcollection
    | other => rfl

theorem spellings_of_leftOut (h : type.LeftOut env) :
    type.spellings env = [.plain anyType] := by
  cases h with
  | generic hsort hforeign =>
      rw [spellings_of_isGeneric hsort]
      cases hraw : type.raw with
      | none => rfl
      | some raw => exact if_neg (Bool.eq_false_iff.mp (hforeign raw hraw))
  | unknown hkind | composite hkind | array hkind =>
      rcases type with ⟨kind, name, package, component, rawKind, raw, arguments, bounds⟩
      cases hkind
      simp_all [spellings]

end Equations

mutual

/-- By every rule the expression of a target is made of the names that the type is spelled with. -/
theorem ResolvesTo.spelledBy : {type : TypeRef} → {target : Target} →
    ResolvesTo env type target → target.SpelledBy (type.spellings env)
  | _, _, .scalar hkind => by
      rw [spellings_of_scalar hkind]
      exact .word _ _ _
  | ⟨_, _, _, _, _, _, _, _⟩, _, .enumeration hkind => by
      cases hkind
      rw [spellings]
      exact @Target.SpelledBy.single _ _ [] rfl rfl
  | type, _, .composite hkind hadmits => by
      rw [spellings_of_composite hkind hadmits]
      exact .single type.names_head rfl
  | _, _, .wrapped hwraps hbelow => by
      rw [spellings_of_wrapped? hwraps]
      exact hbelow.spelledBy.join _
  | _, _, .generic hsort hraw hadmits _ hbelow => by
      rw [spellings_of_isGeneric hsort, hraw, genericSpellings, if_pos hadmits]
      exact hbelow.spelledBy.withRaw
  | ⟨_, _, _, _, _, _, _, _⟩, _, .typeVariable hkind => by
      cases hkind
      rw [spellings]
      exact .word _ _ _
  | ⟨_, _, _, _, _, _, _, _⟩, _, .wildcard hkind _ => by
      cases hkind
      rw [spellings]
      exact .word _ _ _
  | _, _, .any hleft => by
      rw [spellings_of_leftOut hleft]
      exact .word _ _ _

theorem ResolveTo.spelledBy : {types : List TypeRef} → {targets : List Target} →
    ResolveTo env types targets → TargetsSpelledBy targets (spellingsAll env types)
  | _, _, .nil => .nil
  | _, _, .cons hfirst hothers => hothers.spelledBy.cons hfirst.spelledBy

end

/-- The expression of a resolved type is made of the names that the type is spelled with. -/
theorem spelledBy_resolve (type : TypeRef) (target : Target)
    (h : (type.resolve env).outcome = .ok target) : target.SpelledBy (type.spellings env) :=
  (resolvesTo_of_resolve type target h).spelledBy

end TypeRef

end CatalogClient
