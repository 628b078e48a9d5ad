/-
# Emitting declared types

Every declared type that is met is emitted once, as a source file of its own. Its name is
registered before its fields are followed, so types that refer to each other are emitted once each
and the walk ends: below a newly registered name, fewer names of the declarations are left. An
emission that fails keeps what was registered and added before, with the unfinished files left
empty.
-/

import CatalogClient.Emission.Registry
import CatalogClient.Emission.Target
import CatalogClient.Remaining

namespace CatalogClient

/-- The state of a run: the names taken so far, the files added so far and the records. -/
structure Emission where
  registry : Registry := {}
  project : Project := {}
  log : Log := []

namespace Emission

/-- The state with one more record. -/
def note (emission : Emission) (severity : Severity) (text : String) : Emission :=
  { emission with log := emission.log ++ [⟨severity, text⟩] }

/-- The state with the records of a computation. -/
def notes (emission : Emission) (log : Log) : Emission :=
  { emission with log := emission.log ++ log }

/-- The name of the file of a declared type. -/
def fileName (name : String) : String :=
  name ++ ".ts"

/-- The line that imports a type into the file of another one. -/
def importLine (name : String) : String :=
  "import type \x7b" ++ name ++ "\x7d from './" ++ name ++ "';"

/-- The state with the file of a name finished. -/
def finish (emission : Emission) (name : String) (change : SourceFile → SourceFile) : Emission :=
  { emission with project := emission.project.changeLastFile (fileName name) change }

/-- The record of a type whose simple name was taken by a type of the given origin. -/
def noteTaken (emission : Emission) (type : TypeRef) (origin : Option String) : Emission :=
  if origin = some type.qualifiedName then emission
  else
    emission.note .warning (type.qualifiedName
      ++ " shares the simple name with already emitted " ++ origin.getD TypeRef.absentName
      ++ ", skipping")

/-- The record of a type whose simple name was taken by another type. -/
def noteCollision (emission : Emission) (type : TypeRef) : Emission :=
  emission.noteTaken type (emission.registry.originOf type.simpleName)

/-- The state after the name of a type is registered and an empty file is added for it. -/
def opened? (emission : Emission) (type : TypeRef) : Option Emission :=
  (emission.registry.register? type.simpleName type.qualifiedName).map fun registry =>
    { emission with
      registry
      project := emission.project.addFile { name := fileName type.simpleName } }

/-- The record of an interface without a declaration. -/
def noteUndeclared (emission : Emission) (type : TypeRef) (declaration : Option Declaration) :
    Emission :=
  if declaration.isSome then emission
  else
    emission.note .warning ("No declaration for " ++ type.qualifiedName
      ++ ", emitting an empty interface")

theorem taken_of_opened? {emission next : Emission} {type : TypeRef}
    (h : emission.opened? type = some next) :
    type.simpleName ∉ emission.registry.taken ∧
      next.registry.taken = emission.registry.taken ++ [type.simpleName] := by
  obtain ⟨registry, registered, rfl⟩ := Option.map_eq_some_iff.mp h
  exact Registry.taken_of_register? registered

@[simp] theorem registry_notes (emission : Emission) (log : Log) :
    (emission.notes log).registry = emission.registry := rfl

@[simp] theorem registry_finish (emission : Emission) (name : String)
    (change : SourceFile → SourceFile) :
    (emission.finish name change).registry = emission.registry := rfl

@[simp] theorem registry_noteCollision (emission : Emission) (type : TypeRef) :
    (emission.noteCollision type).registry = emission.registry := by
  unfold noteCollision noteTaken
  split <;> rfl

@[simp] theorem registry_noteUndeclared (emission : Emission) (type : TypeRef)
    (declaration : Option Declaration) :
    (emission.noteUndeclared type declaration).registry = emission.registry := by
  unfold noteUndeclared
  split <;> rfl

@[simp] theorem project_noteCollision (emission : Emission) (type : TypeRef) :
    (emission.noteCollision type).project = emission.project := by
  unfold noteCollision noteTaken
  split <;> rfl

@[simp] theorem project_noteUndeclared (emission : Emission) (type : TypeRef)
    (declaration : Option Declaration) :
    (emission.noteUndeclared type declaration).project = emission.project := by
  unfold noteUndeclared
  split <;> rfl

end Emission

/-- The simple names of types. -/
def simpleNames (types : List TypeRef) : List String :=
  types.map TypeRef.simpleName

/-- The types that have to be generated for a type. -/
def TypeRef.discovered (env : Environment) (type : TypeRef) : List TypeRef :=
  match (type.resolve env).outcome with
  | .ok target => target.discovered
  | .error _ => []

theorem TypeRef.discovered_of_resolve {env : Environment} {type : TypeRef} {target : Target}
    (h : (type.resolve env).outcome = .ok target) : type.discovered env = target.discovered := by
  simp [TypeRef.discovered, h]

/-- The types that have to be generated for a field. -/
def Field.discovered (env : Environment) (field : Field) : List TypeRef :=
  field.type.discovered env

/-- The simple names of the types that have to be generated for some fields. -/
def fieldNames (env : Environment) (fields : List Field) : List String :=
  fields.flatMap fun field => simpleNames (field.discovered env)

/-- The simple names of all types that the declarations lead to. -/
def Environment.names (env : Environment) : List String :=
  env.declarations.flatMap fun entry => fieldNames env entry.2.visibleFields

namespace Environment

variable {env : Environment}

/-- How many names are unseen below some names: those that the declarations lead to, and those of
the given names that they do not lead to. -/
def unseen (env : Environment) (names seen : List String) : Nat :=
  remaining (names.filter (fun name => decide (name ∉ env.names)) ++ env.names) seen

theorem unseen_le {names names' seen seen' : List String} (more : seen ⊆ seen')
    (fewer : names'.Sublist names) : env.unseen names' seen' ≤ env.unseen names seen := by
  unfold unseen
  refine Nat.le_trans ?_ (remaining_le_of_subset _ more)
  exact List.Sublist.countP_le ((fewer.filter _).append (List.Sublist.refl _))

theorem unseen_le_of_subset {names names' seen seen' : List String} (more : seen ⊆ seen')
    (known : names' ⊆ env.names) : env.unseen names' seen' ≤ env.unseen names seen := by
  have none : names'.filter (fun name => decide (name ∉ env.names)) = [] := by
    rw [List.filter_eq_nil_iff]
    intro name member
    simpa using known member
  have : env.unseen names' seen' = env.unseen [] seen' := by
    rw [unseen, none]
    rfl
  rw [this]
  exact unseen_le more (List.nil_sublist _)

/-- Once a name is seen, fewer names are unseen below what the declarations lead to. -/
theorem unseen_lt {names seen : List String} {name : String} (fresh : name ∉ seen)
    (known : names ⊆ env.names) :
    env.unseen names (seen ++ [name]) < env.unseen [name] seen := by
  have more : seen ⊆ seen ++ [name] := List.subset_append_left _ _
  have strict : env.unseen [name] (seen ++ [name]) < env.unseen [name] seen := by
    refine remaining_lt_of_mem more ?_ fresh ?_
    · by_cases inside : name ∈ env.names <;> simp [inside]
    · simp
  exact Nat.lt_of_le_of_lt (unseen_le_of_subset (List.Subset.refl _) known) strict

end Environment

/-- How many names are left to register below some names. -/
def Emission.left (emission : Emission) (env : Environment) (names : List String) : Nat :=
  env.unseen names emission.registry.taken

/-- The outcome of an emission together with the state that it leaves, in which every name that was
taken before is still taken. -/
structure Attempt (start : Emission) (α : Type) where
  emission : Emission
  outcome : Except Rejection α
  keeps : start.registry.taken ⊆ emission.registry.taken

namespace Emission

variable {env : Environment}

theorem left_le {emission next : Emission} {names names' : List String}
    (keeps : emission.registry.taken ⊆ next.registry.taken) (fewer : names'.Sublist names) :
    next.left env names' ≤ emission.left env names :=
  Environment.unseen_le keeps fewer

theorem left_lt_of_opened? {emission next : Emission} {type : TypeRef} {names : List String}
    (opened : emission.opened? type = some next) (known : names ⊆ env.names) :
    next.left env names < emission.left env [type.simpleName] := by
  obtain ⟨fresh, taken⟩ := taken_of_opened? opened
  unfold left
  rw [taken]
  exact Environment.unseen_lt fresh known

theorem fieldNames_subset_of_find? {type : TypeRef} {declaration : Declaration}
    (found : env.declarations.find? type = some declaration) :
    fieldNames env declaration.visibleFields ⊆ env.names := by
  obtain ⟨key, member⟩ := DeclarationTable.mem_of_find? found
  intro name inside
  exact List.mem_flatMap.mpr ⟨_, member, inside⟩

theorem discovered_of_resolve {field : Field} {target : Target}
    (h : (field.type.resolve env).outcome = .ok target) :
    field.discovered env = target.discovered :=
  TypeRef.discovered_of_resolve h

end Emission

end CatalogClient
