/-
# Request functions of operations

The request function of an operation takes the values that its address needs: one argument for
every placeholder of the path, the page settings if there are any, one argument for every query
parameter, and the payload last. Every placeholder of the path has to be bound by a path
parameter.
-/

import CatalogClient.Emission.Emitting

namespace CatalogClient

/-- Why an operation has no request function. -/
inductive BuildFault
  | unbound (placeholder : String) (function : String)
  | rejected (rejection : Rejection)
  deriving DecidableEq

/-- The words for a placeholder without a parameter. -/
def unboundMessage (placeholder function : String) : String :=
  (if function = "" then "<anonymous>" else function) ++ ": path variable '\x7b" ++ placeholder
    ++ "\x7d' has no bound parameter"

/-- The argument that holds the page settings. -/
def pageArgument : Argument where
  name := "pageable"
  type := some (.word "\x7b page: number, size: number, sort: string \x7d")
  source := .paged

/-- The query components of the page settings. -/
def pageQuery : List (String × String) :=
  [("page", "pageable.page"), ("size", "pageable.size"), ("sort", "pageable.sort")]

namespace Operation

/-- The parameter that binds a placeholder of the path. -/
def pathParameter? (operation : Operation) (placeholder : String) : Option Parameter :=
  operation.parameters.find? fun parameter =>
    parameter.source = .path && parameter.isCalled placeholder

/-- The parameter that is the payload of the request. -/
def bodyParameter? (operation : Operation) : Option Parameter :=
  operation.parameters.find? fun parameter => parameter.source = .body

/-- Whether the operation takes page settings. -/
def isPaged (operation : Operation) : Bool :=
  operation.parameters.any fun parameter => parameter.source = .paged

/-- The query keys of the operation, in order. -/
def queryKeys (operation : Operation) : List String :=
  (operation.parameters.filter fun parameter => parameter.source = .query).map Parameter.queryKey

/-- The address of the request with all its query components. -/
def requestUrl (operation : Operation) : Url :=
  let url : Url := { path := operation.url }
  let url :=
    if operation.isPaged then
      pageQuery.foldl (fun url entry => url.add entry.1 (some entry.2)) url
    else url
  operation.queryKeys.foldl (fun url key => url.add key) url

/-- The arguments for the query: strings, whatever the declared types are. -/
def queryArguments (operation : Operation) : List Argument :=
  operation.queryKeys.map fun key =>
    { name := key, type := some (.word "string"), source := .query }

variable {m : Type → Type} [Monad m] [MonadExcept BuildFault m]

/-- The arguments for the placeholders of the path, in order. -/
def pathArguments (operation : Operation) (map : TypeRef → m Target) :
    List String → m (List Argument)
  | [] => pure []
  | placeholder :: rest =>
      match operation.pathParameter? placeholder with
      | none => throw (.unbound placeholder operation.functionName)
      | some parameter => do
          let target ← map parameter.type
          let others ← pathArguments operation map rest
          pure ({ name := placeholder, type := some target.expression, source := .path } :: others)

/-- The argument for the payload, if there is one. -/
def bodyArgument (operation : Operation) (map : TypeRef → m Target) : m (Option Argument) :=
  match operation.bodyParameter? with
  | none => pure none
  | some parameter => do
      let target ← map parameter.type
      pure (some { name := parameter.name, type := some target.expression, source := .body })

/-- The request function of an operation, whose types are mapped in the order of the arguments, the
type of the response last. -/
def request (operation : Operation) (map : TypeRef → m Target) : m RequestFunction := do
  let pathArguments ←
    operation.pathArguments map ({ path := operation.url : Url }.placeholders).eraseDups
  let body ← operation.bodyArgument map
  let response ← map operation.returnType
  pure
    { name := operation.functionName
      method := if operation.method.getD "" = "" then "GET" else operation.method.getD ""
      url := operation.requestUrl
      arguments := pathArguments ++ (if operation.isPaged then [pageArgument] else [])
        ++ operation.queryArguments ++ body.toList
      body := body.map Argument.name
      response := response.expression }

end Operation

instance : MonadExcept BuildFault (Logged BuildFault) where
  throw := Logged.fail
  tryCatch computation handle :=
    match computation.outcome with
    | .error error => ⟨computation.log ++ (handle error).log, (handle error).outcome⟩
    | .ok _ => computation

/-- The request function of an operation without emitting anything. -/
def Operation.requestOnly (operation : Operation) (env : Environment) :
    Logged BuildFault RequestFunction :=
  operation.request fun type => (type.resolve env).mapError .rejected

/-- The request function of an operation; the types that it uses are emitted. -/
def Operation.requestEmitting (operation : Operation) (env : Environment) :
    Emitting BuildFault RequestFunction :=
  operation.request fun type => (Emitting.map env type).mapError .rejected

/-- A request function whose name and method still have to be accepted. They are checked after
everything else. -/
def RequestFunction.accept (function : RequestFunction) (name method : Validated String) :
    Except BuildFault RequestFunction :=
  (((fun name method => { function with name, method }) <$> name <*> method).toExcept
    "ClientFunction").mapError .rejected

end CatalogClient
