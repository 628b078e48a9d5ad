/-
# The rules of a walk

Emitting a list of types, emitting one type and following the fields of an interface call each
other. What each of the three may do is stated here as rules: pass over a type, report a taken
name, open and finish a file, follow a field, or stop at a field that does not resolve. The rules
hold of every walk, so what is shown of the rules is shown of the walk, whatever its outcome and
however deep its files are nested.
-/

import CatalogClient.Emission.Walk

namespace CatalogClient

namespace Emission

variable {env : Environment}

/-- The state after a type is emitted as its kind asks, with the name of its file if there is a new
one. -/
def ensure (start : Emission) (env : Environment) (type : TypeRef) :
    Attempt start (Option String) :=
  match type.kind with
  | .composite => start.emitInterface env type
  | .enumeration => start.emitEnumeration env type
  | _ => ⟨start, .ok none, fun _ member => member⟩

mutual

/-- Emitting a list of types leads from one state to another. -/
inductive EmitsAll (env : Environment) :
    Emission → List TypeRef → Emission → Except Rejection Unit → Prop
  | nil {start : Emission} : EmitsAll env start [] start (.ok ())
  | stop {start next : Emission} {type : TypeRef} {rest : List TypeRef} {rejection : Rejection}
      (first : Emits env start type next (.error rejection)) :
      EmitsAll env start (type :: rest) next (.error rejection)
  | cons {start next last : Emission} {type : TypeRef} {rest : List TypeRef}
      {file : Option String} {outcome : Except Rejection Unit}
      (first : Emits env start type next (.ok file))
      (others : EmitsAll env next rest last outcome) :
      EmitsAll env start (type :: rest) last outcome

/-- Emitting a type as its kind asks leads from one state to another. -/
inductive Emits (env : Environment) :
    Emission → TypeRef → Emission → Except Rejection (Option String) → Prop
  | passed {start : Emission} {type : TypeRef} (plain : type.isDeclared = false) :
      Emits env start type start (.ok none)
  | taken {start : Emission} {type : TypeRef} (declared : type.isDeclared = true)
      (closed : start.opened? type = none) :
      Emits env start type (start.noteCollision type) (.ok none)
  | enumeration {start next : Emission} {type : TypeRef} (kind : type.kind = .enumeration)
      (opened : start.opened? type = some next) :
      Emits env start type
        (next.finishEnumeration type
          (((env.declarations.find? type).map Declaration.constants).getD []))
        (.ok (some (fileName type.simpleName)))
  | undeclared {start next : Emission} {type : TypeRef} (kind : type.kind = .composite)
      (opened : start.opened? type = some next) (absent : env.declarations.find? type = none) :
      Emits env start type ((next.noteUndeclared type none).finishInterface type none [] [])
        (.ok (some (fileName type.simpleName)))
  | unfinished {start next last : Emission} {type : TypeRef} {declaration : Declaration}
      {rejection : Rejection} (kind : type.kind = .composite)
      (opened : start.opened? type = some next)
      (found : env.declarations.find? type = some declaration)
      (members : Follows env next type.simpleName declaration.visibleFields [] [] last
        (.error rejection)) :
      Emits env start type last (.error rejection)
  | interface {start next last : Emission} {type : TypeRef} {declaration : Declaration}
      {arguments : List Argument} {imports : List String} (kind : type.kind = .composite)
      (opened : start.opened? type = some next)
      (found : env.declarations.find? type = some declaration)
      (members : Follows env next type.simpleName declaration.visibleFields [] [] last
        (.ok (arguments, imports))) :
      Emits env start type (last.finishInterface type (some declaration) arguments imports)
        (.ok (some (fileName type.simpleName)))

/-- Following the fields of an interface, given the members and imports so far, leads from one state
to another. -/
inductive Follows (env : Environment) :
    Emission → String → List Field → List Argument → List String → Emission →
      Except Rejection (List Argument × List String) → Prop
  | done {start : Emission} {owner : String} {members : List Argument} {imports : List String} :
      Follows env start owner [] members imports start (.ok (members, imports))
  | unresolved {start : Emission} {owner : String} {field : Field} {rest : List Field}
      {members : List Argument} {imports : List String} {rejection : Rejection}
      (resolved : (field.type.resolve env).outcome = .error rejection) :
      Follows env start owner (field :: rest) members imports
        (start.notes (field.type.resolve env).log) (.error rejection)
  | blocked {start next : Emission} {owner : String} {field : Field} {rest : List Field}
      {members : List Argument} {imports : List String} {target : Target} {rejection : Rejection}
      (resolved : (field.type.resolve env).outcome = .ok target)
      (below : EmitsAll env (start.notes (field.type.resolve env).log) target.discovered next
        (.error rejection)) :
      Follows env start owner (field :: rest) members imports next (.error rejection)
  | field {start next last : Emission} {owner : String} {field : Field} {rest : List Field}
      {members : List Argument} {imports : List String} {target : Target}
      {outcome : Except Rejection (List Argument × List String)}
      (resolved : (field.type.resolve env).outcome = .ok target)
      (below : EmitsAll env (start.notes (field.type.resolve env).log) target.discovered next
        (.ok ()))
      (others : Follows env next owner rest
        (members ++ [{ name := field.name, type := some target.expression }])
        ((target.importNames (some owner)).foldl addOnce imports) last outcome) :
      Follows env start owner (field :: rest) members imports last outcome

end

theorem emits_enumeration {start : Emission} {type : TypeRef} (hkind : type.kind = .enumeration) :
    Emits env start type (start.emitEnumeration env type).emission
      (start.emitEnumeration env type).outcome := by
  have hdeclared : type.isDeclared = true := by simp [TypeRef.isDeclared, hkind]
  unfold emitEnumeration
  split
  · next hclosed => exact .taken hdeclared hclosed
  · next opened hopened => exact .enumeration hkind hopened

private theorem emits_ensure {start : Emission} {type : TypeRef}
    (hinterface : type.kind = .composite → Emits env start type
      (start.emitInterface env type).emission (start.emitInterface env type).outcome) :
    Emits env start type (start.ensure env type).emission (start.ensure env type).outcome := by
  unfold ensure
  split
  · next hkind => exact hinterface hkind
  · next hkind => exact emits_enumeration hkind
  · next hcomposite henumeration =>
      exact .passed (by simpa [TypeRef.isDeclared] using ⟨hcomposite, henumeration⟩)

/-- Every walk keeps to the rules: along lists of types, into interfaces and over members. -/
theorem walk_emits :
    (∀ start types, EmitsAll env start types (start.emitAll env types).emission
      (start.emitAll env types).outcome) ∧
    (∀ start type, type.kind = .composite →
      Emits env start type (start.emitInterface env type).emission
        (start.emitInterface env type).outcome) ∧
    ∀ start owner fields members imports, Follows env start owner fields members imports
      (start.emitMembers env owner fields members imports).emission
      (start.emitMembers env owner fields members imports).outcome := by
  apply emitAll.mutual_induct env
  · intro start
    rw [emitAll]
    exact .nil
  · intro start type rest first rejection hfirst ih
    have hemits : Emits env start type first.emission first.outcome := emits_ensure ih
    rw [emitAll.eq_def]
    simp only
    split
    · next rejection' herror =>
        rw [show first.outcome = .error rejection' from herror] at hemits
        exact .stop hemits
    · next hok => cases hfirst.symm.trans hok
  · intro start type rest first file hfirst ih ihrest _
    have hemits : Emits env start type first.emission first.outcome := emits_ensure ih
    rw [hfirst] at hemits
    rw [emitAll.eq_def]
    simp only
    split
    · next herror => cases hfirst.symm.trans herror
    · exact .cons hemits ihrest
  · intro start type hclosed hkind
    have hdeclared : type.isDeclared = true := by simp [TypeRef.isDeclared, hkind]
    rw [emitInterface.eq_def]
    split
    · exact .taken hdeclared hclosed
    · next opened hopened => cases hclosed.symm.trans hopened
  · intro start type next hopened habsent hkind
    rw [emitInterface.eq_def]
    split
    · next hclosed => cases hclosed.symm.trans hopened
    · next opened hopened' =>
        split
        · exact .undeclared hkind hopened' habsent
        · next found => cases habsent.symm.trans found
  · intro start type next hopened declaration hfound walked _ rejection hwalked ih hkind
    rw [hwalked] at ih
    rw [emitInterface.eq_def]
    split
    · next hclosed => cases hclosed.symm.trans hopened
    · next opened hopened' =>
        obtain rfl := Option.some.inj (hopened.symm.trans hopened')
        split
        · next habsent => cases habsent.symm.trans hfound
        · next declaration' hfound' =>
            obtain rfl := Option.some.inj (hfound.symm.trans hfound')
            simp only
            split
            · next rejection' herror =>
                obtain rfl := Except.error.inj (hwalked.symm.trans herror)
                exact .unfinished hkind hopened hfound ih
            · next hok => cases hwalked.symm.trans hok
  · intro start type next hopened declaration hfound walked _ members imports hwalked ih hkind
    rw [hwalked] at ih
    rw [emitInterface.eq_def]
    split
    · next hclosed => cases hclosed.symm.trans hopened
    · next opened hopened' =>
        obtain rfl := Option.some.inj (hopened.symm.trans hopened')
        split
        · next habsent => cases habsent.symm.trans hfound
        · next declaration' hfound' =>
            obtain rfl := Option.some.inj (hfound.symm.trans hfound')
            simp only
            split
            · next herror => cases hwalked.symm.trans herror
            · next hok =>
                cases hwalked.symm.trans hok
                exact .interface hkind hopened hfound ih
  · intro start owner members imports
    rw [emitMembers]
    exact .done
  · intro start owner members imports field rest resolved rejection hresolved
    rw [emitMembers.eq_def]
    simp only
    split
    · next rejection' herror => exact .unresolved herror
    · next hok => cases hresolved.symm.trans hok
  · intro start owner members imports field rest resolved target hresolved walked rejection hwalked
      ih _
    rw [hwalked] at ih
    rw [emitMembers.eq_def]
    simp only
    split
    · next herror => cases hresolved.symm.trans herror
    · next target' htarget =>
        obtain rfl := Except.ok.inj (hresolved.symm.trans htarget)
        split
        · next rejection' herror =>
            obtain rfl := Except.error.inj (hwalked.symm.trans herror)
            exact .blocked hresolved ih
        · next hok => cases hwalked.symm.trans hok
  · intro start owner members imports field rest resolved target hresolved walked hwalked ih _
      ihrest _
    rw [hwalked] at ih
    rw [emitMembers.eq_def]
    simp only
    split
    · next herror => cases hresolved.symm.trans herror
    · next target' htarget =>
        obtain rfl := Except.ok.inj (hresolved.symm.trans htarget)
        split
        · next herror => cases hwalked.symm.trans herror
        · exact .field hresolved ih ihrest

theorem emitsAll (start : Emission) (types : List TypeRef) :
    EmitsAll env start types (start.emitAll env types).emission
      (start.emitAll env types).outcome :=
  walk_emits.1 start types

end Emission

/-- Whether every field that the client sees has a type that resolves. -/
def Environment.Resolvable (env : Environment) : Prop :=
  ∀ entry ∈ env.declarations, ∀ field ∈ entry.2.visibleFields,
    (field.type.resolve env).outcome.isOk = true

instance (env : Environment) : Decidable env.Resolvable :=
  inferInstanceAs (Decidable (∀ entry ∈ env.declarations, ∀ field ∈ entry.2.visibleFields,
    (field.type.resolve env).outcome.isOk = true))

/-- Whether all fields of the types with a property resolve and lead to such types again. -/
def Environment.Sound (env : Environment) (P : TypeRef → Prop) : Prop :=
  ∀ owner declaration, P owner → owner.kind = .composite →
    env.declarations.find? owner = some declaration →
      ∀ field ∈ declaration.visibleFields, (field.type.resolve env).outcome.isOk = true ∧
        ∀ found ∈ field.discovered env, P found

theorem Environment.Resolvable.sound {env : Environment} (h : env.Resolvable) :
    env.Sound fun _ => True := by
  intro owner declaration _ _ hfound field hfield
  obtain ⟨key, hmem⟩ := DeclarationTable.mem_of_find? hfound
  exact ⟨h _ hmem field hfield, fun _ _ => trivial⟩

namespace Emission

variable {env : Environment} {P : TypeRef → Prop}

mutual

/-- A walk fails only at a field whose type does not resolve. -/
theorem EmitsAll.succeeds (hsound : env.Sound P) {start next : Emission} {types : List TypeRef}
    {outcome : Except Rejection Unit} (h : EmitsAll env start types next outcome)
    (htypes : ∀ type ∈ types, P type) : outcome.isOk = true := by
  match h with
  | .nil => rfl
  | .stop first => exact first.succeeds hsound (htypes _ List.mem_cons_self)
  | .cons first others =>
      exact others.succeeds hsound fun type hmem => htypes type (List.mem_cons_of_mem _ hmem)

theorem Emits.succeeds (hsound : env.Sound P) {start next : Emission} {type : TypeRef}
    {outcome : Except Rejection (Option String)} (h : Emits env start type next outcome)
    (htype : P type) : outcome.isOk = true := by
  match h with
  | .passed plain => rfl
  | .taken declared closed => rfl
  | .enumeration kind opened => rfl
  | .undeclared kind opened absent => rfl
  | .unfinished kind opened found members =>
      exact members.succeeds hsound (hsound _ _ htype kind found)
  | .interface kind opened found members => rfl

theorem Follows.succeeds (hsound : env.Sound P) {start next : Emission} {owner : String}
    {fields : List Field} {members : List Argument} {imports : List String}
    {outcome : Except Rejection (List Argument × List String)}
    (h : Follows env start owner fields members imports next outcome)
    (hfields : ∀ field ∈ fields, (field.type.resolve env).outcome.isOk = true ∧
      ∀ found ∈ field.discovered env, P found) :
    outcome.isOk = true := by
  match h with
  | .done => rfl
  | .unresolved resolved =>
      have hok := (hfields _ List.mem_cons_self).1
      rw [resolved] at hok
      exact hok
  | .blocked resolved below =>
      have hbelow := (hfields _ List.mem_cons_self).2
      rw [discovered_of_resolve resolved] at hbelow
      exact below.succeeds hsound hbelow
  | .field resolved below others =>
      apply others.succeeds hsound
      intro field hmem
      exact hfields field (List.mem_cons_of_mem _ hmem)

end

end Emission

end CatalogClient
