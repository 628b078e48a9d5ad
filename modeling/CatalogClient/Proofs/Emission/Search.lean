/-
# The search for declared types

The types that a composite type leads to are those that the fields of its declaration ask to be
generated. Emitting types searches this graph depth first, and a simple name is the key under which
a type counts as seen: a type whose name is taken is not followed again, whatever its package. The
search is stated here on its own, without the state of an emission, as the list of the types that
take a name, each at its first visit. What it visits is reached, and no name below what it visits
is left out.
-/

import CatalogClient.Proofs.Resolution

namespace CatalogClient

theorem simpleNames_append (types others : List TypeRef) :
    simpleNames (types ++ others) = simpleNames types ++ simpleNames others :=
  List.map_append

@[simp] theorem simpleNames_cons (type : TypeRef) (rest : List TypeRef) :
    simpleNames (type :: rest) = type.simpleName :: simpleNames rest := rfl

@[simp] theorem simpleNames_nil : simpleNames [] = [] := rfl

theorem simpleName_mem_simpleNames {type : TypeRef} {types : List TypeRef} (h : type ∈ types) :
    type.simpleName ∈ simpleNames types :=
  List.mem_map_of_mem h

namespace Environment

variable {env : Environment}

/-- The types that the fields of a composite type lead to. An ignored field leads nowhere, and so
does a type without a declaration. -/
def successors (env : Environment) (type : TypeRef) : List TypeRef :=
  match type.kind with
  | .composite =>
      match env.declarations.find? type with
      | some declaration => declaration.visibleFields.flatMap (Field.discovered env)
      | none => []
  | _ => []

theorem successors_of_find? {type : TypeRef} {declaration : Declaration}
    (hkind : type.kind = .composite) (hfound : env.declarations.find? type = some declaration) :
    env.successors type = declaration.visibleFields.flatMap (Field.discovered env) := by
  simp only [successors, hkind, hfound]

theorem successors_of_absent {type : TypeRef} (habsent : env.declarations.find? type = none) :
    env.successors type = [] := by
  unfold successors
  split
  · rw [habsent]
  · rfl

theorem successors_of_kind_ne {type : TypeRef} (hkind : type.kind ≠ .composite) :
    env.successors type = [] := by
  unfold successors
  split
  · next hcomposite => exact absurd hcomposite hkind
  · rfl

/-- The types that some types lead to: these types, and whatever the fields of a reached type lead
to. -/
inductive Reaches (env : Environment) (roots : List TypeRef) : TypeRef → Prop
  | root {type : TypeRef} (member : type ∈ roots) : env.Reaches roots type
  | field {owner type : TypeRef} (reached : env.Reaches roots owner)
      (member : type ∈ env.successors owner) : env.Reaches roots type

theorem Reaches.trans {roots others : List TypeRef} {type : TypeRef}
    (h : env.Reaches others type) (hroots : ∀ other ∈ others, env.Reaches roots other) :
    env.Reaches roots type := by
  induction h with
  | root member => exact hroots _ member
  | field _ member ih => exact .field ih member

/-- What is closed under the fields of composite types holds of all that is reached. -/
theorem Reaches.of_closed {roots : List TypeRef} {type : TypeRef} (h : env.Reaches roots type)
    {P : TypeRef → Prop} (hroots : ∀ root ∈ roots, P root)
    (hclosed : ∀ owner, P owner → ∀ found ∈ env.successors owner, P found) : P type := by
  induction h with
  | root member => exact hroots _ member
  | field _ member ih => exact hclosed _ ih _ member

theorem simpleNames_successors_subset (type : TypeRef) :
    simpleNames (env.successors type) ⊆ env.names := by
  unfold successors
  split
  · split
    · next declaration found =>
        intro name hmem
        obtain ⟨found', hfound, rfl⟩ := List.mem_map.mp hmem
        obtain ⟨field, hfield, hdiscovered⟩ := List.mem_flatMap.mp hfound
        refine Emission.fieldNames_subset_of_find? found (List.mem_flatMap.mpr ⟨field, hfield, ?_⟩)
        exact simpleName_mem_simpleNames hdiscovered
    · simp
  · simp

/-- The types that take a name when some types are emitted in order and the seen names are taken
already. A type takes its name before the types that its fields lead to, and these take theirs
before the next type of the list. -/
def visits (env : Environment) (seen : List String) : List TypeRef → List TypeRef
  | [] => []
  | type :: rest =>
      if type.isDeclared = true ∧ type.simpleName ∉ seen then
        let below := env.visits (seen ++ [type.simpleName]) (env.successors type)
        type :: below ++ env.visits (seen ++ type.simpleName :: simpleNames below) rest
      else env.visits seen rest
termination_by types => (env.unseen (simpleNames types) seen, types.length)
decreasing_by
  · next h =>
      refine .left _ _ (Nat.lt_of_lt_of_le (unseen_lt h.2 (simpleNames_successors_subset type)) ?_)
      exact unseen_le (List.Subset.refl _) (by simp)
  · exact lex_of_le (unseen_le (List.subset_append_left _ _) (by simp)) (by simp)
  · exact lex_of_le (unseen_le (List.Subset.refl _) (by simp)) (by simp)

@[simp] theorem visits_nil (seen : List String) : env.visits seen [] = [] := by
  rw [visits]

/-- A type whose name is free is visited first, then what its fields lead to, then the rest. -/
theorem visits_cons_of_fresh {seen : List String} {type : TypeRef} (rest : List TypeRef)
    (hdeclared : type.isDeclared = true) (hfresh : type.simpleName ∉ seen) :
    env.visits seen (type :: rest) =
      type :: env.visits (seen ++ [type.simpleName]) (env.successors type)
        ++ env.visits (seen ++ type.simpleName ::
          simpleNames (env.visits (seen ++ [type.simpleName]) (env.successors type))) rest := by
  rw [visits, if_pos ⟨hdeclared, hfresh⟩]

/-- A type that is not declared or whose name is taken is passed over. -/
theorem visits_cons_of_passed {seen : List String} {type : TypeRef} (rest : List TypeRef)
    (hpassed : ¬(type.isDeclared = true ∧ type.simpleName ∉ seen)) :
    env.visits seen (type :: rest) = env.visits seen rest := by
  rw [visits, if_neg hpassed]

/-- Searching two lists one after the other is searching both at once. -/
theorem visits_append (seen : List String) (types others : List TypeRef) :
    env.visits seen (types ++ others) =
      env.visits seen types ++ env.visits (seen ++ simpleNames (env.visits seen types)) others := by
  fun_induction env.visits seen types with
  | case1 seen => simp
  | case2 seen type rest hfresh below ihbelow ihrest =>
      rw [List.cons_append, visits_cons_of_fresh _ hfresh.1 hfresh.2, ihrest]
      simp [simpleNames_append, List.append_assoc, below]
  | case3 seen type rest hpassed ih =>
      rw [List.cons_append, visits_cons_of_passed _ hpassed, ih]

/-- Only declared types are visited. -/
theorem isDeclared_of_mem_visits {seen : List String} {types : List TypeRef} :
    ∀ type ∈ env.visits seen types, type.isDeclared = true := by
  fun_induction env.visits seen types with
  | case1 seen => simp
  | case2 seen type rest hfresh below ihbelow ihrest =>
      intro visited hmem
      rcases List.mem_append.mp hmem with hmem | hmem
      · rcases List.mem_cons.mp hmem with rfl | hmem
        · exact hfresh.1
        · exact ihbelow visited hmem
      · exact ihrest visited hmem
  | case3 seen type rest hpassed ih => exact ih

/-- Whatever is visited had a name that was free before. -/
theorem simpleName_not_mem_of_mem_visits {seen : List String} {types : List TypeRef} :
    ∀ type ∈ env.visits seen types, type.simpleName ∉ seen := by
  fun_induction env.visits seen types with
  | case1 seen => simp
  | case2 seen type rest hfresh below ihbelow ihrest =>
      intro visited hmem hseen
      rcases List.mem_append.mp hmem with hmem | hmem
      · rcases List.mem_cons.mp hmem with rfl | hmem
        · exact hfresh.2 hseen
        · exact ihbelow visited hmem (List.mem_append_left _ hseen)
      · exact ihrest visited hmem (List.mem_append_left _ hseen)
  | case3 seen type rest hpassed ih => exact ih

/-- Whatever is visited is reached. -/
theorem reaches_of_mem_visits {seen : List String} {types : List TypeRef} :
    ∀ type ∈ env.visits seen types, env.Reaches types type := by
  fun_induction env.visits seen types with
  | case1 seen => simp
  | case2 seen type rest hfresh below ihbelow ihrest =>
      intro visited hmem
      have hself : env.Reaches (type :: rest) type := .root List.mem_cons_self
      rcases List.mem_append.mp hmem with hmem | hmem
      · rcases List.mem_cons.mp hmem with rfl | hmem
        · exact hself
        · exact (ihbelow visited hmem).trans fun other hother => .field hself hother
      · exact (ihrest visited hmem).trans fun other hother => .root (List.mem_cons_of_mem _ hother)
  | case3 seen type rest hpassed ih =>
      intro visited hmem
      exact (ih visited hmem).trans fun other hother => .root (List.mem_cons_of_mem _ hother)

/-- No name is taken twice. -/
theorem nodup_visits {seen : List String} (types : List TypeRef) (hseen : seen.Nodup) :
    (seen ++ simpleNames (env.visits seen types)).Nodup := by
  fun_induction env.visits seen types with
  | case1 seen => simpa using hseen
  | case2 seen type rest hfresh below ihbelow ihrest =>
      have hstart : (seen ++ [type.simpleName]).Nodup := by
        refine List.nodup_append.mpr ⟨hseen, by simp, fun name hname other hother => ?_⟩
        rw [List.mem_singleton.mp hother]
        exact ne_of_mem_of_not_mem hname hfresh.2
      have hbelow := ihbelow hstart
      rw [List.append_assoc] at hbelow
      have hrest := ihrest hbelow
      simpa [simpleNames_append, List.append_assoc, below] using hrest
  | case3 seen type rest hpassed ih => exact ih hseen

/-- The name of every declared type that is searched for is seen in the end. -/
theorem mem_names_of_visits {seen : List String} {types : List TypeRef} :
    ∀ type ∈ types, type.isDeclared = true →
      type.simpleName ∈ seen ++ simpleNames (env.visits seen types) := by
  fun_induction env.visits seen types with
  | case1 seen => simp
  | case2 seen type rest hfresh below ihbelow ihrest =>
      intro searched hmem hdeclared
      rcases List.mem_cons.mp hmem with rfl | hmem
      · simp [simpleNames_append]
      · have hnamed := ihrest searched hmem hdeclared
        simpa [simpleNames_append, List.append_assoc, below] using hnamed
  | case3 seen type rest hpassed ih =>
      intro searched hmem hdeclared
      rcases List.mem_cons.mp hmem with rfl | hmem
      · by_cases htaken : searched.simpleName ∈ seen
        · exact List.mem_append_left _ htaken
        · exact absurd ⟨hdeclared, htaken⟩ hpassed
      · exact ih searched hmem hdeclared

/-- The names of all declared types that a visited type leads to are seen in the end: cutting the
search at a name that is taken loses no name, even where the type of that name is still being
followed. -/
theorem mem_names_of_successors {seen : List String} {types : List TypeRef} :
    ∀ owner ∈ env.visits seen types, ∀ type ∈ env.successors owner, type.isDeclared = true →
      type.simpleName ∈ seen ++ simpleNames (env.visits seen types) := by
  fun_induction env.visits seen types with
  | case1 seen => simp
  | case2 seen type rest hfresh below ihbelow ihrest =>
      intro owner howner found hfound hdeclared
      have hlater : ∀ name ∈ (seen ++ [type.simpleName]) ++ simpleNames below,
          name ∈ seen ++ simpleNames (type :: below ++
            env.visits (seen ++ type.simpleName :: simpleNames below) rest) := by
        intro name hname
        rw [simpleNames_append, ← List.append_assoc]
        exact List.mem_append_left _ (by simpa using hname)
      rcases List.mem_append.mp howner with howner | howner
      · rcases List.mem_cons.mp howner with rfl | howner
        · exact hlater _ (mem_names_of_visits found hfound hdeclared)
        · exact hlater _ (ihbelow owner howner found hfound hdeclared)
      · have hnamed := ihrest owner howner found hfound hdeclared
        simpa [simpleNames_append, List.append_assoc, below] using hnamed
  | case3 seen type rest hpassed ih => exact ih

end Environment

end CatalogClient
