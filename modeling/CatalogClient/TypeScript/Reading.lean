/-
# Reading source parts

The parts of a source file can be given as documents. Where an expression is expected, a text
stands for a word; anything that is neither a text nor a valid expression is refused for both
reasons.
-/

import CatalogClient.Remaining
import CatalogClient.TypeScript.Source
import CatalogClient.Validation.Reading

namespace CatalogClient

/-- A word, or an expression that is read in the given way. -/
def Expression.wordOr (read : Place → Validated Expression) : Reader Expression :=
  fun document place =>
    match document.view place with
    | .string text => .accepted (.word text)
    | _ =>
        match read place with
        | .accepted expression => .accepted expression
        | .rejected faults =>
            .rejected (faults.map (Fault.under · (.key "TypeExpression"))
              ++ [⟨[.key "str"], .notString⟩])

/-- A group of expressions at a place, read inside the groups at the given paths. A value that is no
list counts as a list of itself. There is room for a limited number of groups in each other. -/
def Expression.readUnder (room : Nat) (document : Document) (above : List Path) (place : Place) :
    Validated Expression :=
  match place with
  | .letter _ => .complain (.notModel "TypeExpression")
  | .node path =>
      match _reached : document.root.at? path with
      | some (.object members) =>
          if _met : path ∈ above then .complain .cycle
          else if room ≤ above.length then .complain .deep
          else
            let inner (place : Place) : Validated Expression :=
              wordOr (fun place => readUnder room document (path :: above) place) document place
            let fields : Keyed Place := members.map fun member =>
              (member.1, document.follow (path ++ [.key member.1]))
            let readItems (place : Place) : Validated (List Expression) :=
              match document.view place with
              | .array places => Reader.items inner places
              | _ => Reader.items inner [place]
            Expression.group
              <$> fields.withDefault "value" [] readItems
              <*> fields.withDefault "wrap_name" none (Reader.text.optional document)
      | _ => .complain (.notModel "TypeExpression")
termination_by remaining document.root.paths above
decreasing_by
  exact remaining_lt_of_mem (List.subset_cons_self path above) (Json.mem_paths_of_at? _reached) _met
    List.mem_cons_self

/-- A group of expressions that is part of another model. -/
def Expression.readGroup : Reader Expression := fun document place =>
  readUnder roomInside document [] place

/-- A group of expressions that stands alone. -/
def Expression.readAlone : Reader Expression := fun document place =>
  readUnder roomAtTop document [] place

/-- An expression: a word or a group. -/
def Expression.read : Reader Expression := fun document place =>
  wordOr (readGroup document) document place

/-- An argument. -/
def Argument.read : Reader Argument :=
  Reader.model "Argument" fun document fields => Argument.mk
    <$> fields.required "name" (Reader.text document)
    <*> fields.withDefault "var_type" none (Expression.read.optional document)
    <*> fields.withDefault "source" .none
      (Reader.choice ParameterSource.all ParameterSource.label document)

/-- An address. -/
def Url.read : Reader Url :=
  Reader.model "UrlTemplate" fun document fields => Url.mk
    <$> fields.required "path" (Reader.text document)
    <*> fields.withDefault "query" [] (Reader.textPair.list .notList document)

/-- Whether a value says nothing: a null, a false, a zero, or an empty text, list or object. -/
def View.isBlank : View → Bool
  | .null => true
  | .bool value => !value
  | .number value => value.truth = .value false
  | .string value => value = ""
  | .array items => items.isEmpty
  | .object members => members.isEmpty

/-- A request method. A value that says nothing stands for the default method. -/
def RequestFunction.readMethod : Reader String := fun document place =>
  if (document.view place).isBlank then .accepted "GET" else Reader.text document place

/-- A request function. -/
def RequestFunction.read : Reader RequestFunction :=
  Reader.model "ClientFunction" fun document fields => RequestFunction.mk
    <$> fields.required "name" (Reader.text document)
    <*> fields.withDefault "method" "GET" (readMethod document)
    <*> fields.required "url" (Url.read document)
    <*> fields.withDefault "arguments" [] (Argument.read.list .notList document)
    <*> fields.withDefault "body" none (Reader.text.optional document)
    <*> fields.withDefault "response" (.word anyType) (Expression.read document)

/-- The name, the type parameters and the already read members of an interface. -/
def Interface.readWith (members : List Argument) : Reader Interface :=
  Reader.model "Interface" fun document fields => (Interface.mk · · members)
    <$> fields.required "name" (Reader.text document)
    <*> fields.withDefault "type_parameters" [] (Reader.text.list .notList document)

/-- An enumeration. -/
def Enumeration.read : Reader Enumeration :=
  Reader.model "Enumeration" fun document fields => Enumeration.mk
    <$> fields.required "name" (Reader.text document)
    <*> fields.withDefault "constants" [] (Reader.text.list .notList document)

/-- A source file that has only a name and import lines. -/
def SourceFile.read : Reader SourceFile :=
  Reader.model "CodeFile" fun document fields =>
    (fun name imports => { name, imports })
    <$> fields.required "file_name" (Reader.text document)
    <*> fields.withDefault "imports" [] (Reader.text.list .notList document)

/-- A block of code. -/
def SourceFile.readCodeBlock : Reader String :=
  Reader.model "CodeBlock" fun document fields =>
    fields.withDefault "code" "" (Reader.text document)

end CatalogClient
