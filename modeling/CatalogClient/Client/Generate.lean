/-
# Generating a client

A client is generated from a catalog in two passes. The first one emits every declared type that
the operations lead to; the second one builds the request functions. The functions go into one
file of their own, which imports every registered type and comes last.
-/

import CatalogClient.Client.Request

namespace CatalogClient

/-- The name of the file that holds the request functions. -/
def functionsFileName : String := "api.ts"

/-- The first line of the file that holds the request functions. -/
def functionsHeader : String := "import axios from 'axios';"

/-- The line that imports a type into the file that holds the request functions. -/
def functionsImportLine (name : String) : String :=
  "import type \x7b " ++ name ++ " \x7d from './" ++ name ++ "';"

/-- The functions that every client has. -/
def defaultFunctions : List String :=
  ["export const setDefaultHeader = (header: string, value: string) => "
      ++ "axios.defaults.headers.common[header] = value;",
    "export const setBaseUrl = (url: string) => axios.defaults.baseURL = url;"]

/-- The types of an operation that are emitted first: the type of the response and those of all
parameters other than page settings. -/
def Operation.discoveredTypes (operation : Operation) : List TypeRef :=
  operation.returnType ::
    (operation.parameters.filter fun parameter => parameter.source ≠ .paged).map Parameter.type

namespace Catalog

/-- Map all types of a list in order. -/
def mapAll (env : Environment) : List TypeRef → Emitting Rejection Unit
  | [] => pure ()
  | type :: rest => do
      let _ ← Emitting.map env type
      mapAll env rest

/-- The first pass: emit every declared type that the operations lead to. -/
def discover (catalog : Catalog) (env : Environment) : Emitting Rejection Unit :=
  mapAll env (catalog.operations.flatMap fun entry => entry.2.discoveredTypes)

/-- The second pass: the request functions of the operations, given the earlier operations. A
function name that an earlier operation has as well is reported. -/
def buildFunctions (env : Environment) (earlier : Keyed Operation) :
    Keyed Operation → Emitting BuildFault (List RequestFunction)
  | [] => pure []
  | (key, operation) :: rest => do
      let name := operation.functionName
      Emitting.note .debug ("Generating " ++ name ++ " for " ++ key)
      match earlier.find? fun entry => entry.2.functionName = name with
      | some first =>
          Emitting.note .warning (first.1 ++ " and " ++ key ++ " both generate " ++ name)
      | none => pure ()
      let function ← operation.requestEmitting env
      let functions ← buildFunctions env (earlier ++ [(key, operation)]) rest
      pure (function :: functions)

/-- The file that holds the request functions. -/
def functionsFile (registry : Registry) (functions : List RequestFunction) (extra : List String) :
    SourceFile :=
  let imported := registry.names.foldl (fun file name => file.addImport (functionsImportLine name))
    { name := functionsFileName, imports := [functionsHeader], functions }
  (defaultFunctions ++ extra).foldl SourceFile.addCodeBlock imported

end Catalog

/-- What a generation yields: the project and the registered names. -/
structure Generated where
  project : Project
  registry : Registry
  deriving DecidableEq

namespace Catalog

/-- What the types of a catalog are seen against. -/
def environment (catalog : Catalog) (scope : Scope) : Environment :=
  ⟨scope, catalog.declarations⟩

/-- The client once all types are emitted and all functions are built. -/
def assemble (catalog : Catalog) (extra : List String) (functions : List RequestFunction) :
    Emitting BuildFault Generated := fun emission =>
  let file := functionsFile emission.registry functions extra
  let project := (emission.project.addFile file).moveLast file
  (emission.note .info ("Generated " ++ toString catalog.operations.length ++ " operations and "
    ++ toString emission.registry.size ++ " declarations"), .ok ⟨project, emission.registry⟩)

/-- The passes of a generation. -/
def generating (catalog : Catalog) (env : Environment) (extra : List String) :
    Emitting BuildFault Generated := do
  (catalog.discover env).mapError .rejected
  let functions ← buildFunctions env [] catalog.operations
  catalog.assemble extra functions

/-- The client of a catalog for the given scope, with further functions of the caller's. -/
def generateWithin (catalog : Catalog) (scope : Scope) (extra : List String) :
    Logged BuildFault Generated :=
  let ended := catalog.generating (catalog.environment scope) extra {}
  ⟨ended.1.log, ended.2⟩

/-- The client of a catalog for the given packages, with further functions of the caller's. -/
def generate (catalog : Catalog) (packages : List String) (extra : List String := []) :
    Logged BuildFault Generated :=
  catalog.generateWithin (.ofPackages packages) extra

end Catalog

end CatalogClient
