/-
# How often a walk opens a file

A walk opens the file of a type at most once for each simple name, and it follows the fields of a
composite type only there. The types whose files are opened are listed here in order, also for a
walk that fails: their names are exactly the names that the walk takes, and each of them is reached.
-/

import CatalogClient.Proofs.Emission.Decision

namespace CatalogClient

namespace Emission

variable {env : Environment}

mutual

/-- The types whose files are opened when the types of a list are emitted, in order. -/
def openings (start : Emission) (env : Environment) (types : List TypeRef) : List TypeRef :=
  match types with
  | [] => []
  | type :: rest =>
      let first := start.ensure env type
      start.openingsOf env type ++
        match first.outcome with
        | .error _ => []
        | .ok _ => first.emission.openings env rest
termination_by (start.left env (simpleNames types), 0, types.length)
decreasing_by
  · refine lex_of_le (left_le (fun _ member => member) ?_) (.right _ (by simp))
    simp [simpleNames]
  · refine lex_of_le (left_le first.keeps ?_) (.right _ (by simp))
    simp [simpleNames]

/-- The types whose files are opened when a type is emitted: the type itself, if it is declared and
its name is free, and then what is opened below its fields. Fields are followed nowhere else. -/
def openingsOf (start : Emission) (env : Environment) (type : TypeRef) : List TypeRef :=
  match type.kind with
  | .composite =>
      match _opened : start.opened? type with
      | none => []
      | some emission =>
          match _found : env.declarations.find? type with
          | none => [type]
          | some declaration => type :: emission.openingsBelow env declaration.visibleFields
  | .enumeration => if (start.opened? type).isSome then [type] else []
  | _ => []
termination_by (start.left env [type.simpleName], 0, 0)
decreasing_by
  exact .left _ _ (left_lt_of_opened? _opened (fieldNames_subset_of_find? _found))

/-- The types whose files are opened when some fields are followed, in order. -/
def openingsBelow (start : Emission) (env : Environment) (fields : List Field) : List TypeRef :=
  match fields with
  | [] => []
  | field :: rest =>
      match _resolved : (field.type.resolve env).outcome with
      | .error _ => []
      | .ok target =>
          let noted := start.notes (field.type.resolve env).log
          let walked := noted.emitAll env target.discovered
          noted.openings env target.discovered ++
            match walked.outcome with
            | .error _ => []
            | .ok () => walked.emission.openingsBelow env rest
termination_by (start.left env (fieldNames env fields), 1, fields.length)
decreasing_by
  · refine lex_of_le (left_le (fun _ member => member) ?_) (.left _ _ (by simp))
    simp [fieldNames, discovered_of_resolve _resolved]
  · refine lex_of_le (left_le walked.keeps ?_) (.right _ (by simp))
    simp [fieldNames]

end

section Equations

variable {start next : Emission} {type : TypeRef}

theorem openingsOf_of_isDeclared_eq_false (h : type.isDeclared = false) :
    start.openingsOf env type = [] := by
  rw [openingsOf]
  split
  · next hkind => simp [TypeRef.isDeclared, hkind] at h
  · next hkind => simp [TypeRef.isDeclared, hkind] at h
  · rfl

theorem openingsOf_of_closed (hclosed : start.opened? type = none) :
    start.openingsOf env type = [] := by
  rw [openingsOf]
  split
  · split
    · rfl
    · next hopened => cases hclosed.symm.trans hopened
  · simp [hclosed]
  · rfl

theorem openingsOf_of_absent (hdeclared : type.isDeclared = true)
    (hopened : start.opened? type = some next)
    (habsent : type.kind = .composite → env.declarations.find? type = none) :
    start.openingsOf env type = [type] := by
  rw [openingsOf]
  split
  · next hkind =>
      split
      · next hclosed => cases hclosed.symm.trans hopened
      · split
        · rfl
        · next hfound => cases (habsent hkind).symm.trans hfound
  · simp [hopened]
  · next hcomposite henumeration =>
      have hkind : type.kind = .composite ∨ type.kind = .enumeration := by
        simpa [TypeRef.isDeclared] using hdeclared
      exact absurd hkind (not_or.mpr ⟨hcomposite, henumeration⟩)

theorem openingsOf_of_found {declaration : Declaration} (hkind : type.kind = .composite)
    (hopened : start.opened? type = some next)
    (hfound : env.declarations.find? type = some declaration) :
    start.openingsOf env type = type :: next.openingsBelow env declaration.visibleFields := by
  rw [openingsOf]
  simp only [hkind]
  split
  · next hclosed => cases hclosed.symm.trans hopened
  · next opened hopened' =>
      obtain rfl := Option.some.inj (hopened.symm.trans hopened')
      split
      · next habsent => cases habsent.symm.trans hfound
      · next declaration' hfound' =>
          obtain rfl := Option.some.inj (hfound.symm.trans hfound')
          rfl

theorem openingsBelow_of_unresolved {field : Field} {rest : List Field} {rejection : Rejection}
    (hresolved : (field.type.resolve env).outcome = .error rejection) :
    start.openingsBelow env (field :: rest) = [] := by
  rw [openingsBelow]
  split
  · rfl
  · next hok => cases hresolved.symm.trans hok

theorem openingsBelow_of_resolved {field : Field} {rest : List Field} {target : Target}
    (hresolved : (field.type.resolve env).outcome = .ok target) :
    start.openingsBelow env (field :: rest) =
      (start.notes (field.type.resolve env).log).openings env target.discovered ++
        match
          ((start.notes (field.type.resolve env).log).emitAll env target.discovered).outcome
        with
        | .error _ => []
        | .ok () => ((start.notes (field.type.resolve env).log).emitAll env
            target.discovered).emission.openingsBelow env rest := by
  rw [openingsBelow]
  split
  · next herror => cases hresolved.symm.trans herror
  · next target' htarget =>
      obtain rfl := Except.ok.inj (hresolved.symm.trans htarget)
      rfl

end Equations

/-- The names that were taken on the way from one state to another are those of some opened types,
which are declared and reached from the given roots. -/
structure Opens (env : Environment) (roots : List TypeRef) (start next : Emission)
    (opened : List TypeRef) : Prop where
  taken : next.registry.taken = start.registry.taken ++ simpleNames opened
  declared : ∀ type ∈ opened, type.isDeclared = true
  reached : ∀ type ∈ opened, env.Reaches roots type

namespace Opens

variable {roots others : List TypeRef} {start next last : Emission} {opened more : List TypeRef}

/-- Nothing is opened where the registry stays the same. -/
theorem of_eq (h : next.registry = start.registry) : Opens env roots start next [] where
  taken := by simp [h]
  declared := by simp
  reached := by simp

/-- Records open nothing. -/
theorem of_notes {log : Log} (h : Opens env roots (start.notes log) next opened) :
    Opens env roots start next opened :=
  ⟨h.taken, h.declared, h.reached⟩

theorem mono (h : Opens env roots start next opened) (hroots : roots ⊆ others) :
    Opens env others start next opened where
  taken := h.taken
  declared := h.declared
  reached := fun type hmem => (h.reached type hmem).trans fun _ hroot => .root (hroots hroot)

theorem trans (h : Opens env roots start next opened) (h' : Opens env roots next last more) :
    Opens env roots start last (opened ++ more) where
  taken := by rw [h'.taken, h.taken, simpleNames_append, List.append_assoc]
  declared := fun type hmem => (List.mem_append.mp hmem).elim (h.declared type) (h'.declared type)
  reached := fun type hmem => (List.mem_append.mp hmem).elim (h.reached type) (h'.reached type)

/-- A type is opened, and then whatever its fields lead to. -/
theorem cons {finished : Emission} {type : TypeRef} (hdeclared : type.isDeclared = true)
    (hopened : start.opened? type = some next)
    (hbelow : Opens env (env.successors type) next last opened)
    (hregistry : finished.registry = last.registry) :
    Opens env [type] start finished (type :: opened) where
  taken := by
    rw [hregistry, hbelow.taken, (taken_of_opened? hopened).2]
    simp
  declared := List.forall_mem_cons.mpr ⟨hdeclared, hbelow.declared⟩
  reached := by
    have hself : env.Reaches [type] type := .root List.mem_cons_self
    refine List.forall_mem_cons.mpr ⟨hself, fun found hmem => ?_⟩
    exact (hbelow.reached found hmem).trans fun other hother => .field hself hother

end Opens

mutual

theorem EmitsAll.opens {start next : Emission} {types : List TypeRef}
    {outcome : Except Rejection Unit} (h : EmitsAll env start types next outcome) :
    Opens env types start next (start.openings env types) := by
  match h with
  | .nil =>
      rw [openings]
      exact .of_eq rfl
  | .stop first =>
      obtain ⟨-, houtcome⟩ := Prod.mk.inj first.result_eq
      rw [openings]
      simp only [houtcome, List.append_nil]
      exact first.opens.mono (by simp)
  | .cons first others =>
      obtain ⟨hstate, houtcome⟩ := Prod.mk.inj first.result_eq
      rw [openings]
      simp only [houtcome, hstate]
      exact (first.opens.mono (by simp)).trans (others.opens.mono (by simp))

theorem Emits.opens {start next : Emission} {type : TypeRef}
    {outcome : Except Rejection (Option String)} (h : Emits env start type next outcome) :
    Opens env [type] start next (start.openingsOf env type) := by
  match h with
  | .passed plain =>
      rw [openingsOf_of_isDeclared_eq_false plain]
      exact .of_eq rfl
  | .taken declared closed =>
      rw [openingsOf_of_closed closed]
      exact .of_eq (registry_noteCollision start type)
  | .enumeration kind opened =>
      have hdeclared : type.isDeclared = true := by simp [TypeRef.isDeclared, kind]
      rw [openingsOf_of_absent hdeclared opened (by simp [kind])]
      exact .cons hdeclared opened (.of_eq rfl) rfl
  | .undeclared kind opened absent =>
      have hdeclared : type.isDeclared = true := by simp [TypeRef.isDeclared, kind]
      rw [openingsOf_of_absent hdeclared opened fun _ => absent]
      exact .cons hdeclared opened (.of_eq (registry_noteUndeclared _ type none)) rfl
  | .unfinished kind opened found members =>
      have hbelow := members.opens
      rw [← Environment.successors_of_find? kind found] at hbelow
      rw [openingsOf_of_found kind opened found]
      exact .cons (by simp [TypeRef.isDeclared, kind]) opened hbelow rfl
  | .interface kind opened found members =>
      have hbelow := members.opens
      rw [← Environment.successors_of_find? kind found] at hbelow
      rw [openingsOf_of_found kind opened found]
      exact .cons (by simp [TypeRef.isDeclared, kind]) opened hbelow rfl

theorem Follows.opens {start next : Emission} {owner : String} {fields : List Field}
    {members : List Argument} {imports : List String}
    {outcome : Except Rejection (List Argument × List String)}
    (h : Follows env start owner fields members imports next outcome) :
    Opens env (fields.flatMap (Field.discovered env)) start next
      (start.openingsBelow env fields) := by
  match h with
  | .done =>
      rw [openingsBelow]
      exact .of_eq rfl
  | .unresolved resolved =>
      rw [openingsBelow_of_unresolved resolved]
      exact .of_eq rfl
  | .blocked resolved below =>
      obtain ⟨-, houtcome⟩ := Prod.mk.inj below.result_eq
      rw [openingsBelow_of_resolved resolved]
      simp only [houtcome, List.append_nil]
      rw [List.flatMap_cons, discovered_of_resolve resolved]
      exact (below.opens.mono (List.subset_append_left _ _)).of_notes
  | .field resolved below others =>
      obtain ⟨hstate, houtcome⟩ := Prod.mk.inj below.result_eq
      rw [openingsBelow_of_resolved resolved]
      simp only [houtcome, hstate]
      rw [List.flatMap_cons, discovered_of_resolve resolved]
      exact (below.opens.mono (List.subset_append_left _ _)).of_notes.trans
        (others.opens.mono (List.subset_append_right _ _))

end

end Emission

end CatalogClient
