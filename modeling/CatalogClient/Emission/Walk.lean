/-
# The walk through declared types

Emitting a type follows the types of its fields before its own file is finished. The walk is
defined by recursion on the names that are left to register.
-/

import CatalogClient.Emission.Basic

namespace CatalogClient

namespace Emission

/-- The finished file of an enumeration. -/
def finishEnumeration (emission : Emission) (type : TypeRef) (constants : List String) :
    Emission :=
  let name := type.simpleName
  let finished := emission.finish name fun file =>
    file.addDefinition (.enumeration { name, constants })
  finished.note .debug ("Emitted enum " ++ name ++ " (" ++ toString constants.length
    ++ " constants)")

@[simp] theorem registry_finishEnumeration (emission : Emission) (type : TypeRef)
    (constants : List String) :
    (emission.finishEnumeration type constants).registry = emission.registry := rfl

/-- The state after an enumeration is emitted, with the name of its file unless its name was
taken. -/
def emitEnumeration (start : Emission) (env : Environment) (type : TypeRef) :
    Attempt start (Option String) :=
  match opened : start.opened? type with
  | none => ⟨start.noteCollision type, .ok none, by simp⟩
  | some emission =>
      let constants := ((env.declarations.find? type).map Declaration.constants).getD []
      ⟨emission.finishEnumeration type constants, .ok (some (fileName type.simpleName)), by
        simp [(taken_of_opened? opened).2]⟩

/-- The finished file of an interface. -/
def finishInterface (emission : Emission) (type : TypeRef) (declaration : Option Declaration)
    (members : List Argument) (imports : List String) : Emission :=
  let name := type.simpleName
  let typeParameters := (declaration.map Declaration.typeParameters).getD []
  let finished := emission.finish name fun file =>
    (imports.foldl (fun file name => file.addImport (importLine name)) file).addDefinition
      (.interface { name, typeParameters, members })
  finished.note .debug ("Emitted interface " ++ name ++ " (" ++ toString members.length
    ++ " members)")

@[simp] theorem registry_finishInterface (emission : Emission) (type : TypeRef)
    (declaration : Option Declaration) (members : List Argument) (imports : List String) :
    (emission.finishInterface type declaration members imports).registry = emission.registry := rfl

mutual

/-- The state after the declared types of a list are emitted, in order. -/
def emitAll (start : Emission) (env : Environment) (types : List TypeRef) : Attempt start Unit :=
  match types with
  | [] => ⟨start, .ok (), fun _ member => member⟩
  | type :: rest =>
      let first : Attempt start (Option String) :=
        match type.kind with
        | .composite => start.emitInterface env type
        | .enumeration => start.emitEnumeration env type
        | _ => ⟨start, .ok none, fun _ member => member⟩
      match first.outcome with
      | .error rejection => ⟨first.emission, .error rejection, first.keeps⟩
      | .ok _ =>
          let others := first.emission.emitAll env rest
          ⟨others.emission, others.outcome, fun _ member => others.keeps (first.keeps member)⟩
termination_by (start.left env (simpleNames types), 0, types.length)
decreasing_by
  · refine lex_of_le (left_le (fun _ member => member) ?_) (.right _ (by simp))
    simp [simpleNames]
  · refine lex_of_le (left_le first.keeps ?_) (.right _ (by simp))
    simp [simpleNames]

/-- The state after a composite type is emitted as an interface, with the name of its file unless
its name was taken. A type without a declaration becomes an interface without members. -/
def emitInterface (start : Emission) (env : Environment) (type : TypeRef) :
    Attempt start (Option String) :=
  match opened : start.opened? type with
  | none => ⟨start.noteCollision type, .ok none, by simp⟩
  | some emission =>
      match found : env.declarations.find? type with
      | none =>
          let noted := emission.noteUndeclared type none
          ⟨noted.finishInterface type none [] [], .ok (some (fileName type.simpleName)), by
            simp [noted, (taken_of_opened? opened).2]⟩
      | some declaration =>
          let walked := emission.emitMembers env type.simpleName declaration.visibleFields [] []
          have keeps : start.registry.taken ⊆ walked.emission.registry.taken := by
            refine fun _ member => walked.keeps ?_
            rw [(taken_of_opened? opened).2]
            exact List.mem_append_left _ member
          match walked.outcome with
          | .error rejection => ⟨walked.emission, .error rejection, keeps⟩
          | .ok (members, imports) =>
              ⟨walked.emission.finishInterface type (some declaration) members imports,
                .ok (some (fileName type.simpleName)), by simpa using keeps⟩
termination_by (start.left env [type.simpleName], 0, 0)
decreasing_by
  exact .left _ _ (left_lt_of_opened? opened (fieldNames_subset_of_find? found))

/-- The members and the imported names of an interface once its remaining fields are followed, given
those of the fields before. -/
def emitMembers (start : Emission) (env : Environment) (owner : String) (fields : List Field)
    (members : List Argument) (imports : List String) :
    Attempt start (List Argument × List String) :=
  match fields with
  | [] => ⟨start, .ok (members, imports), fun _ member => member⟩
  | field :: rest =>
      let resolved := field.type.resolve env
      match _resolved : resolved.outcome with
      | .error rejection => ⟨start.notes resolved.log, .error rejection, fun _ member => member⟩
      | .ok target =>
          let walked := (start.notes resolved.log).emitAll env target.discovered
          match walked.outcome with
          | .error rejection => ⟨walked.emission, .error rejection, walked.keeps⟩
          | .ok () =>
              let others := walked.emission.emitMembers env owner rest
                (members ++ [{ name := field.name, type := some target.expression }])
                ((target.importNames (some owner)).foldl addOnce imports)
              ⟨others.emission, others.outcome, fun _ member => others.keeps (walked.keeps member)⟩
termination_by (start.left env (fieldNames env fields), 1, fields.length)
decreasing_by
  · refine lex_of_le (left_le (fun _ member => member) ?_) (.left _ _ (by simp))
    simp [fieldNames, discovered_of_resolve _resolved]
  · refine lex_of_le (left_le walked.keeps ?_) (.right _ (by simp))
    simp [fieldNames]

end

end Emission

end CatalogClient
