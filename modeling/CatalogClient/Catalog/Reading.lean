/-
# Reading catalogs

The models of a catalog are read from a document whose references are resolved. A document may
contain itself, so the reading of a type reference keeps the places of the references around it:
meeting one of them again is a fault, and the reading ends because the document has finitely many
places.
-/

import CatalogClient.Catalog.Basic
import CatalogClient.Json.Reference
import CatalogClient.Validation.Reading

namespace CatalogClient

/-- A type reference at a place, read inside the references at the given paths. There is room for a
limited number of references in each other. -/
def TypeRef.readUnder (room : Nat) (document : Document) (above : List Path) (place : Place) :
    Validated TypeRef :=
  match place with
  | .letter _ => .complain (.notModel "TypeDescriptor")
  | .node path =>
      match _reached : document.root.at? path with
      | some (.object members) =>
          if _met : path ∈ above then .complain .cycle
          else if room ≤ above.length then .complain .deep
          else
            let inner : Reader TypeRef := fun _ place =>
              readUnder room document (path :: above) place
            let fields : Keyed Place := members.map fun member =>
              (member.1, document.follow (path ++ [.key member.1]))
            let read : Validated TypeRef := TypeRef.mk
              <$> fields.withDefault "kind" .unknown
                (Reader.choice TypeKind.all TypeKind.label document)
              <*> fields.withDefault "name" none (Reader.text.optional document)
              <*> fields.withDefault "namespace" none (Reader.text.optional document)
              <*> fields.withDefault "component" none (inner.optional document)
              <*> fields.withDefault "raw_kind" none
                ((Reader.choice RawKind.all RawKind.label).optional document)
              <*> fields.withDefault "raw" none (inner.optional document)
              <*> fields.withDefault "arguments" [] (inner.list .notTuple document)
              <*> fields.withDefault "bounds" [] (inner.list .notTuple document)
            read.check fun type => type.brokenRule?.map .shape
      | _ => .complain (.notModel "TypeDescriptor")
termination_by remaining document.root.paths above
decreasing_by
  exact remaining_lt_of_mem (List.subset_cons_self path above) (Json.mem_paths_of_at? _reached) _met
    List.mem_cons_self

/-- A type reference that is part of another model. -/
def TypeRef.read : Reader TypeRef := fun document place =>
  TypeRef.readUnder roomInside document [] place

/-- A type reference that stands alone. -/
def TypeRef.readAlone : Reader TypeRef := fun document place =>
  TypeRef.readUnder roomAtTop document [] place

/-- A field of a declaration. -/
def Field.read : Reader Field :=
  Reader.model "FieldDeclaration" fun document fields => Field.mk
    <$> fields.required "name" (Reader.text document)
    <*> fields.required "type" (TypeRef.read document)
    <*> fields.withDefault "ignored" false (Reader.truth document)

/-- A declaration. -/
def Declaration.read : Reader Declaration :=
  Reader.model "TypeDeclaration" fun document fields => Declaration.mk
    <$> fields.required "name" (Reader.text document)
    <*> fields.withDefault "namespace" none (Reader.text.optional document)
    <*> fields.withDefault "kind" .composite (Reader.choice TypeKind.all TypeKind.label document)
    <*> fields.withDefault "type_parameters" [] (Reader.text.list .notList document)
    <*> fields.withDefault "fields" [] (Field.read.list .notList document)
    <*> fields.withDefault "constants" [] (Reader.text.list .notList document)

/-- A parameter of an operation. -/
def Parameter.read : Reader Parameter :=
  Reader.model "ParameterDescriptor" fun document fields => Parameter.mk
    <$> fields.required "name" (Reader.text document)
    <*> fields.withDefault "type" { kind := .unknown } (TypeRef.read document)
    <*> fields.withDefault "source" .none
      (Reader.choice ParameterSource.all ParameterSource.label document)
    <*> fields.withDefault "binding_value" none (Reader.text.optional document)
    <*> fields.withDefault "binding_name" none (Reader.text.optional document)

/-- An operation. -/
def Operation.read : Reader Operation :=
  Reader.model "OperationDescriptor" fun document fields => Operation.mk
    <$> fields.withDefault "method" none (Reader.text.optional document)
    <*> fields.required "url" (Reader.text document)
    <*> fields.required "function_name" (Reader.text document)
    <*> fields.withDefault "parameters" [] (Parameter.read.list .notList document)
    <*> fields.withDefault "return_type" { kind := .void } (TypeRef.read document)

/-- A whole catalog. -/
def Catalog.read : Reader Catalog :=
  Reader.model "ServerCatalog" fun document fields => Catalog.mk
    <$> fields.withDefault "operations" [] (Operation.read.dictionary document)
    <*> fields.withDefault "declarations" [] (Declaration.read.dictionary document)

/-- A model that stands for a whole document in which no reference is followed. -/
def Reader.readPlain {α : Type} (read : Reader α) (value : Json) : Validated α :=
  read (.plain value) (.node [])

/-- Why a document is no catalog. -/
inductive CatalogFault
  | unresolved (fault : ReferenceFault)
  | malformed (rejection : Rejection)

/-- The catalog that a document stands for once its references are resolved, some of which may name
other documents. -/
def Catalog.ofJson (value : Json) (resolver : Resolver := {}) : Except CatalogFault Catalog :=
  match Document.resolve value resolver with
  | .error fault => .error (.unresolved fault)
  | .ok document =>
      ((Catalog.read document document.top).toExcept "ServerCatalog").mapError .malformed

end CatalogClient
