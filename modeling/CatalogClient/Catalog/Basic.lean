/-
# Catalogs

A catalog lists the operations that a server offers, each with its request method, its address and
its parameters, together with the declarations of the types that the operations refer to.
-/

import CatalogClient.Catalog.Declaration

namespace CatalogClient

/-- Where the value of a parameter travels in a request. -/
inductive ParameterSource
  | path
  | query
  | body
  | paged
  | none
  deriving DecidableEq, Repr

namespace ParameterSource

/-- The word for a source in a catalog document. -/
def label : ParameterSource → String
  | path => "path"
  | query => "query"
  | body => "body"
  | paged => "paged"
  | none => "none"

/-- All sources in the order in which messages list them. -/
def all : List ParameterSource :=
  [path, query, body, paged, none]

end ParameterSource

/-- A parameter of an operation. A binding gives it a second and a third name in the request. -/
structure Parameter where
  name : String
  type : TypeRef := { kind := .unknown }
  source : ParameterSource := .none
  bindingValue : Option String := none
  bindingName : Option String := none
  deriving DecidableEq

/-- Whether a parameter is called so by its own name or by a binding. -/
def Parameter.isCalled (parameter : Parameter) (name : String) : Bool :=
  parameter.name = name || parameter.bindingValue = some name || parameter.bindingName = some name

/-- The key of a query parameter: the first name that is not empty among the binding value and the
binding name, or else the declared name. -/
def Parameter.queryKey (parameter : Parameter) : String :=
  if parameter.bindingValue.getD "" ≠ "" then parameter.bindingValue.getD ""
  else if parameter.bindingName.getD "" ≠ "" then parameter.bindingName.getD ""
  else parameter.name

/-- An operation of the server. -/
structure Operation where
  method : Option String := none
  url : String
  functionName : String
  parameters : List Parameter := []
  returnType : TypeRef := { kind := .void }
  deriving DecidableEq

/-- The operations of a server and the declarations of its types. -/
structure Catalog where
  operations : Keyed Operation := []
  declarations : DeclarationTable := []
  deriving DecidableEq

end CatalogClient
