/-
# Types that are handed over

An emission is given types, and below a type whose name is free it is given those that the fields of
this type lead to. The order in which types are handed over is that of the search, so it can be told
from the types alone, without the states of an emission. The first declared type of a simple name
that is handed over is the one that the search visits, and each later one that is called differently
in its package collides with it.
-/

import CatalogClient.Proofs.Emission.Search

namespace CatalogClient

variable {env : Environment}

namespace Environment

/-- The types that are handed over when some types are emitted in order and the seen names are taken
already: each type of the list and, below a type whose name is free, those that its fields lead to,
before the next type of the list. -/
def handed (env : Environment) (seen : List String) : List TypeRef → List TypeRef
  | [] => []
  | type :: rest =>
      if type.isDeclared = true ∧ type.simpleName ∉ seen then
        let below := env.visits (seen ++ [type.simpleName]) (env.successors type)
        type :: env.handed (seen ++ [type.simpleName]) (env.successors type)
          ++ env.handed (seen ++ type.simpleName :: simpleNames below) rest
      else type :: env.handed seen rest
termination_by types => (env.unseen (simpleNames types) seen, types.length)
decreasing_by
  · next h =>
      refine .left _ _ (Nat.lt_of_lt_of_le (unseen_lt h.2 (simpleNames_successors_subset type)) ?_)
      exact unseen_le (List.Subset.refl _) (by simp)
  · exact lex_of_le (unseen_le (List.subset_append_left _ _) (by simp)) (by simp)
  · exact lex_of_le (unseen_le (List.Subset.refl _) (by simp)) (by simp)

@[simp] theorem handed_nil (seen : List String) : env.handed seen [] = [] := by
  rw [handed]

theorem handed_cons_of_fresh {seen : List String} {type : TypeRef} (rest : List TypeRef)
    (hdeclared : type.isDeclared = true) (hfresh : type.simpleName ∉ seen) :
    env.handed seen (type :: rest) =
      type :: env.handed (seen ++ [type.simpleName]) (env.successors type)
        ++ env.handed (seen ++ type.simpleName ::
          simpleNames (env.visits (seen ++ [type.simpleName]) (env.successors type))) rest := by
  rw [handed, if_pos ⟨hdeclared, hfresh⟩]

theorem handed_cons_of_passed {seen : List String} {type : TypeRef} (rest : List TypeRef)
    (hpassed : ¬(type.isDeclared = true ∧ type.simpleName ∉ seen)) :
    env.handed seen (type :: rest) = type :: env.handed seen rest := by
  rw [handed, if_neg hpassed]

/-- Whatever is handed over for two lists is handed over for the first one, and then for the second
one once the names of the first one are taken. -/
theorem handed_append (seen : List String) (types others : List TypeRef) :
    env.handed seen (types ++ others) =
      env.handed seen types ++ env.handed (seen ++ simpleNames (env.visits seen types)) others := by
  fun_induction env.handed seen types with
  | case1 seen => simp
  | case2 seen type rest hfresh below ihbelow ihrest =>
      rw [List.cons_append, handed_cons_of_fresh _ hfresh.1 hfresh.2, ihrest,
        visits_cons_of_fresh _ hfresh.1 hfresh.2]
      simp [simpleNames_append, List.append_assoc, below]
  | case3 seen type rest hpassed ih =>
      rw [List.cons_append, handed_cons_of_passed _ hpassed, ih, visits_cons_of_passed _ hpassed,
        List.cons_append]

/-- The types that are handed over are the given ones and those that the fields of the visited ones
lead to. -/
theorem mem_handed_iff {seen : List String} {types : List TypeRef} {found : TypeRef} :
    found ∈ env.handed seen types ↔
      found ∈ types ∨ ∃ owner ∈ env.visits seen types, found ∈ env.successors owner := by
  fun_induction env.handed seen types with
  | case1 seen => simp
  | case2 seen type rest hfresh below ihbelow ihrest =>
      rw [visits_cons_of_fresh _ hfresh.1 hfresh.2]
      simp only [List.cons_append, List.mem_cons, List.mem_append, ihbelow, ihrest, below]
      grind
  | case3 seen type rest hpassed ih =>
      rw [visits_cons_of_passed _ hpassed, List.mem_cons, List.mem_cons, ih, or_assoc]

end Environment

/-- The first declared type of a simple name among some types. -/
def firstNamed? (types : List TypeRef) (name : String) : Option TypeRef :=
  types.find? fun type => type.isDeclared && decide (type.simpleName = name)

theorem firstNamed?_append (types others : List TypeRef) (name : String) :
    firstNamed? (types ++ others) name = (firstNamed? types name).or (firstNamed? others name) :=
  List.find?_append

theorem of_firstNamed? {types : List TypeRef} {name : String} {type : TypeRef}
    (h : firstNamed? types name = some type) :
    type.isDeclared = true ∧ type.simpleName = name := by
  simpa using List.find?_some h

theorem exists_firstNamed? {types : List TypeRef} {type : TypeRef} (hmem : type ∈ types)
    (hdeclared : type.isDeclared = true) :
    ∃ first, firstNamed? types type.simpleName = some first := by
  rw [← Option.isSome_iff_exists, firstNamed?, List.find?_isSome]
  exact ⟨type, hmem, by simp [hdeclared]⟩

/-- A type that is handed over after another one of its simple name, which has another qualified
name. -/
structure Collision where
  first : TypeRef
  later : TypeRef
  deriving DecidableEq

namespace Collision

/-- The warning of a type whose simple name was taken by a type of the given origin. -/
def warning (qualified origin : String) : LogRecord :=
  ⟨.warning, qualified ++ " shares the simple name with already emitted " ++ origin ++ ", skipping"⟩

/-- The warning of a collision names both types, the later one first. -/
def record (collision : Collision) : LogRecord :=
  warning collision.later.qualifiedName collision.first.qualifiedName

/-- The collision of a type with the first one of its simple name among those before it. -/
def of? (before : List TypeRef) (later : TypeRef) : Option Collision :=
  if later.isDeclared then
    ((firstNamed? before later.simpleName).filter fun first =>
      decide (first.qualifiedName ≠ later.qualifiedName)).map (⟨·, later⟩)
  else none

/-- The collisions among some types that are handed over after others, in order. -/
def among (before : List TypeRef) : List TypeRef → List Collision
  | [] => []
  | later :: rest => (of? before later).toList ++ among (before ++ [later]) rest

theorem of?_eq_some_iff {before : List TypeRef} {later : TypeRef} {collision : Collision} :
    of? before later = some collision ↔
      collision.later = later ∧ later.isDeclared = true ∧
        firstNamed? before later.simpleName = some collision.first ∧
        collision.first.qualifiedName ≠ later.qualifiedName := by
  obtain ⟨first, second⟩ := collision
  unfold of?
  by_cases hdeclared : later.isDeclared = true
  · simp only [hdeclared, if_true, Option.map_eq_some_iff, Option.filter_eq_some_iff,
      decide_eq_true_eq, mk.injEq]
    grind
  · simp [hdeclared]

theorem among_append (before types others : List TypeRef) :
    among before (types ++ others) =
      among before types ++ among (before ++ types) others := by
  induction types generalizing before with
  | nil => simp [among]
  | cons later rest ih =>
      rw [List.cons_append, among, among, ih, List.append_assoc, List.append_assoc]
      rfl

/-- What a collision among some types is: the later type stands somewhere among them, and the first
one is the first of its simple name among all that come before. -/
theorem mem_among_iff {before types : List TypeRef} {collision : Collision} :
    collision ∈ among before types ↔
      ∃ earlier rest, types = earlier ++ collision.later :: rest ∧
        collision.later.isDeclared = true ∧
        firstNamed? (before ++ earlier) collision.later.simpleName = some collision.first ∧
        collision.first.qualifiedName ≠ collision.later.qualifiedName := by
  induction types generalizing before with
  | nil => simp [among]
  | cons later rest ih =>
      rw [among, List.mem_append, Option.mem_toList, of?_eq_some_iff, ih]
      constructor
      · rintro (⟨rfl, hdeclared, hfirst, hother⟩ |
          ⟨earlier, others, rfl, hdeclared, hfirst, hother⟩)
        · exact ⟨[], rest, rfl, hdeclared, by rwa [List.append_nil], hother⟩
        · refine ⟨later :: earlier, others, rfl, hdeclared, ?_, hother⟩
          rwa [List.append_assoc] at hfirst
      · rintro ⟨earlier, others, hsplit, hdeclared, hfirst, hother⟩
        cases earlier with
        | nil =>
            obtain ⟨rfl, rfl⟩ := List.cons.inj hsplit
            rw [List.append_nil] at hfirst
            exact Or.inl ⟨rfl, hdeclared, hfirst, hother⟩
        | cons next earlier =>
            obtain ⟨rfl, rfl⟩ := List.cons.inj hsplit
            refine Or.inr ⟨earlier, others, rfl, hdeclared, ?_, hother⟩
            rwa [List.append_assoc]

/-- A declared type that is called differently than the first one of its simple name collides with
it. -/
theorem exists_mem_among {types : List TypeRef} {first later : TypeRef} (hmem : later ∈ types)
    (hdeclared : later.isDeclared = true)
    (hfirst : firstNamed? types later.simpleName = some first)
    (hother : first.qualifiedName ≠ later.qualifiedName) :
    ∃ collision, collision ∈ among [] types := by
  obtain ⟨earlier, rest, rfl⟩ := List.append_of_mem hmem
  refine ⟨⟨first, later⟩, mem_among_iff.mpr ⟨earlier, rest, rfl, hdeclared, ?_, hother⟩⟩
  rw [firstNamed?_append] at hfirst
  cases hearlier : firstNamed? earlier later.simpleName with
  | some winner =>
      rw [hearlier, Option.some_or] at hfirst
      exact hearlier.trans hfirst
  | none =>
      rw [hearlier, Option.none_or, firstNamed?, List.find?_cons_of_pos (by simp [hdeclared])]
        at hfirst
      exact absurd (congrArg TypeRef.qualifiedName (Option.some.inj hfirst)).symm hother

/-- Some types collide exactly if two declared ones share their simple name but not their qualified
name, in whichever order they are handed over. -/
theorem exists_mem_among_iff {types : List TypeRef} :
    (∃ collision, collision ∈ among [] types) ↔
      ∃ first ∈ types, ∃ later ∈ types, first.isDeclared = true ∧ later.isDeclared = true ∧
        first.simpleName = later.simpleName ∧ first.qualifiedName ≠ later.qualifiedName := by
  constructor
  · rintro ⟨⟨first, later⟩, hmem⟩
    obtain ⟨earlier, rest, hsplit, hdeclared, hfirst, hother⟩ := mem_among_iff.mp hmem
    obtain ⟨hfirstDeclared, hsame⟩ := of_firstNamed? hfirst
    refine ⟨first, ?_, later, ?_, hfirstDeclared, hdeclared, hsame, hother⟩
    · rw [hsplit]
      exact List.mem_append_left _ (List.mem_of_find?_eq_some hfirst)
    · rw [hsplit]
      exact List.mem_append_right _ List.mem_cons_self
  · rintro ⟨first, hfirst, later, hlater, hfirstDeclared, hlaterDeclared, hsame, hother⟩
    obtain ⟨winner, hwinner⟩ := exists_firstNamed? hfirst hfirstDeclared
    by_cases hown : winner.qualifiedName = first.qualifiedName
    · rw [hsame] at hwinner
      exact exists_mem_among hlater hlaterDeclared hwinner (hown ▸ hother)
    · exact exists_mem_among hfirst hfirstDeclared hwinner hown

end Collision

/-- Below names that are taken, the first type of a name that is handed over is the one that the
search visits. -/
theorem Environment.firstNamed?_handed {seen : List String} {types : List TypeRef} {name : String}
    (hfresh : name ∉ seen) :
    firstNamed? (env.handed seen types) name =
      (env.visits seen types).find? fun type => decide (type.simpleName = name) := by
  fun_induction env.handed seen types with
  | case1 seen => simp [firstNamed?]
  | case2 seen type rest hopen below ihbelow ihrest =>
      rw [visits_cons_of_fresh _ hopen.1 hopen.2]
      by_cases hown : type.simpleName = name
      · rw [List.cons_append, List.cons_append, firstNamed?,
          List.find?_cons_of_pos (by simp [hopen.1, hown]), List.find?_cons_of_pos (by simp [hown])]
      · rw [List.cons_append, List.cons_append, firstNamed?,
          List.find?_cons_of_neg (by simp [hown]), List.find?_cons_of_neg (by simp [hown]),
          ← firstNamed?, firstNamed?_append, List.find?_append,
          ihbelow (by simpa using ⟨hfresh, Ne.symm hown⟩)]
        cases hbelow : below.find? fun type => decide (type.simpleName = name) with
        | some found => rfl
        | none =>
            have hunseen : name ∉ simpleNames below := by
              simpa [simpleNames] using hbelow
            rw [ihrest (by simpa using ⟨hfresh, Ne.symm hown, hunseen⟩)]
  | case3 seen type rest hpassed ih =>
      have hplain : type.isDeclared = true → type.simpleName ≠ name := by
        rintro hdeclared rfl
        exact hpassed ⟨hdeclared, hfresh⟩
      rw [visits_cons_of_passed _ hpassed, firstNamed?,
        List.find?_cons_of_neg (by simpa using hplain)]
      exact ih hfresh

end CatalogClient
