/-
# Client types of server types

A server type is turned into a type expression of the client, together with the declared types
that the expression is made of and the declared types that have to be generated for it. Types
outside the scanned packages become the type of all values.
-/

import CatalogClient.Log
import CatalogClient.Scope
import CatalogClient.TypeScript.Source
import CatalogClient.Validation.Fault

namespace CatalogClient

/-- What a server type is seen against: the scanned packages and the declarations. -/
structure Environment where
  scope : Scope
  declarations : DeclarationTable

/-- The client type of a server type. -/
structure Target where
  expression : Expression
  contributing : List TypeRef := []
  discovered : List TypeRef := []
  deriving DecidableEq

namespace Target

/-- The type of all values. -/
def any : Target :=
  { expression := .any }

/-- The names that a file has to import to use the type: those of the declared types in its
expression, each once, without the excluded one. -/
def importNames (target : Target) (exclude : Option String := none) : List String :=
  (((target.contributing.filter TypeRef.isDeclared).filterMap TypeRef.name).filter fun name =>
    decide (some name ≠ exclude)).eraseDups

/-- Several types as the arguments of a named one. -/
def join (targets : List Target) (wrapper : String) : Target where
  expression := .group (targets.map Target.expression) (some wrapper)
  contributing := targets.flatMap Target.contributing
  discovered := targets.flatMap Target.discovered

end Target

/-- The client's name for a type that needs no declaration. -/
def TypeKind.scalar? : TypeKind → Option String
  | .string => some "string"
  | .boolean => some "boolean"
  | .number => some "number"
  | .primitive => some "number"
  | .void => some "void"
  | _ => none

namespace TypeRef

/-- The client type of a declared composite type: its name with the parameters of its declaration.
-/
def resolveComposite (env : Environment) (type : TypeRef) : Logged Rejection Target :=
  if env.scope.admits type.package then
    let name := type.name.getD ""
    let parameters := ((env.declarations.find? type).map Declaration.typeParameters).getD []
    let expression : Expression :=
      if parameters.isEmpty then .ofWord name else .group (parameters.map .word) (some name)
    .done { expression, contributing := [type], discovered := [type] }
  else do
    .note .debug (type.qualifiedName ++ " is outside scanned packages")
    return .any

/-- A generic type with resolved arguments. The raw type has to be generated as well, before the
types of the arguments, but it is not imported. -/
def joinRaw (raw : TypeRef) (arguments : List Target) : Except Rejection Target := do
  let target := Target.join arguments (raw.name.getD "")
  let declared ← (named .composite raw.name raw.package).checked
  return { target with discovered := declared :: target.discovered }

mutual

/-- The client type of a server type. Arrays, maps and collections wrap the types that they are
made of, a generic type of a scanned package keeps its name and its arguments, and the bounds of a
wildcard are only discovered. -/
def resolve (env : Environment) : TypeRef → Logged Rejection Target
  | ⟨kind, name, package, component, rawKind, raw, arguments, bounds⟩ =>
      let type : TypeRef := ⟨kind, name, package, component, rawKind, raw, arguments, bounds⟩
      match kind with
      | .array =>
          match component with
          | some inner => do
              let target ← resolve env inner
              return { target with expression := .group [target.expression] (some "Array") }
          | none => .done .any
      | .enumeration =>
          .done
            { expression := .ofWord (name.getD ""), contributing := [type], discovered := [type] }
      | .composite => resolveComposite env type
      | .parameterized =>
          match rawKind with
          | some .map => do return .join (← resolveAll env arguments) "Map"
          | some .collection => do return .join (← resolveAll env arguments) "Array"
          | _ =>
              match raw with
              | some raw =>
                  if env.scope.admits raw.package then do
                    .ofExcept (joinRaw raw (← resolveAll env arguments))
                  else .done .any
              | none => .done .any
      | .typeVariable => .done { expression := .ofWord (name.getD "") }
      | .wildcard => do
          let targets ← resolveAll env bounds
          return { expression := .any, discovered := targets.flatMap Target.discovered }
      | .unknown => .done .any
      | .void | .primitive | .string | .boolean | .number =>
          .done { expression := .ofWord (kind.scalar?.getD ""), contributing := [type] }

/-- The client types of several server types, in order. -/
def resolveAll (env : Environment) : List TypeRef → Logged Rejection (List Target)
  | [] => .done []
  | type :: rest => do
      let target ← resolve env type
      let targets ← resolveAll env rest
      return target :: targets

end

end TypeRef

end CatalogClient
