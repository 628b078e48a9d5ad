/-
# Computations that emit

A computation over the state of a run: it resolves types and emits what they lead to. What it
emitted before a failure stays emitted.
-/

import CatalogClient.Emission.Walk
import CatalogClient.Staged

namespace CatalogClient

/-- A computation that may emit and may fail. -/
abbrev Emitting (ε α : Type) : Type :=
  Staged Emission ε α

namespace Emitting

variable {ε α : Type}

/-- A single record. -/
def note (severity : Severity) (text : String) : Emitting ε Unit := fun start =>
  (start.note severity text, .ok ())

/-- A logged computation that emits nothing. -/
def ofLogged (computation : Logged ε α) : Emitting ε α := fun start =>
  (start.notes computation.log, computation.outcome)

/-- Emit the declared types of a list, in order. -/
def emit (env : Environment) (types : List TypeRef) : Emitting Rejection Unit := fun start =>
  let attempt := start.emitAll env types
  (attempt.emission, attempt.outcome)

/-- The client type of a server type; the types that it leads to are emitted. -/
def map (env : Environment) (type : TypeRef) : Emitting Rejection Target := do
  let target ← ofLogged (type.resolve env)
  emit env target.discovered
  return target

end Emitting

namespace Emission

/-- The state after a type without a name is registered and an empty file is added for it. -/
def openedNameless? (emission : Emission) (type : TypeRef) : Option Emission :=
  (emission.registry.registerNameless? type.qualifiedName).map fun registry =>
    { emission with
      registry
      project := emission.project.addFile { name := fileName TypeRef.absentName } }

/-- The emission of a type without a name, which another one may have taken the place of. It is
refused by the given model after its empty file is added. -/
def emitNameless? (model : String) (note : Emission → Emission) (type : TypeRef) :
    Emitting Rejection (Option String) := fun start =>
  match start.openedNameless? type with
  | none => (start.noteTaken type (start.registry.nameless.getD none), .ok none)
  | some opened => (note opened, .error ⟨model, [⟨[.key "name"], .notString⟩]⟩)

/-- The emission of a composite type by itself, whatever the kind of the reference. A reference
without a name is refused, and leaves an empty file. -/
def emitInterface? (env : Environment) (type : TypeRef) : Emitting Rejection (Option String) :=
  if type.name.isSome then fun start =>
    let attempt := start.emitInterface env type
    (attempt.emission, attempt.outcome)
  else
    let declaration := env.declarations.find? type
    emitNameless? (if declaration.isSome then "Interface" else "TypeDeclaration")
      (·.noteUndeclared type declaration) type

/-- The emission of an enumeration by itself, whatever the kind of the reference. A reference
without a name is refused, and leaves an empty file. -/
def emitEnumeration? (env : Environment) (type : TypeRef) : Emitting Rejection (Option String) :=
  if type.name.isSome then fun start =>
    let attempt := start.emitEnumeration env type
    (attempt.emission, attempt.outcome)
  else emitNameless? "Enumeration" id type

end Emission

end CatalogClient
