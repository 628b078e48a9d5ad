/-
# Validation faults

Validation turns a part of a document into a value of the library or lists everything that is
wrong with it. Each fault names the steps to its place and what is wrong there. The parts of a
value are validated independently of each other, so the faults of all of them are listed in order.
-/

import CatalogClient.Catalog.TypeRef
import CatalogClient.Json.Basic
import CatalogClient.Text.Quoted

namespace CatalogClient

/-- What is wrong with a value. -/
inductive Complaint
  | missing
  | notString
  | notList
  | notTuple
  | notDictionary
  | notModel (model : String)
  | notChoice (allowed : List String)
  | notBoolean
  | unclearBoolean
  | shape (rule : ShapeRule)
  | longPair (length : Nat)
  | cycle
  | deep
  deriving DecidableEq, Repr

/-- How a release of the validation reports that values stand too deep in each other: as if one of
them contained itself, or apart from that. -/
inductive DepthReport
  | asLoop
  | apart
  deriving DecidableEq, Repr

namespace Complaint

/-- The code of a complaint. -/
def code (complaint : Complaint) (report : DepthReport := .apart) : String :=
  match complaint with
  | missing => "missing"
  | notString => "string_type"
  | notList => "list_type"
  | notTuple => "tuple_type"
  | notDictionary => "dict_type"
  | notModel _ => "model_type"
  | notChoice _ => "enum"
  | notBoolean => "bool_type"
  | unclearBoolean => "bool_parsing"
  | shape _ => "value_error"
  | longPair _ => "too_long"
  | cycle => "recursion_loop"
  | deep =>
      match report with
      | .asLoop => "recursion_loop"
      | .apart => "recursion_depth_exceeded"

/-- Quoted words in a sentence: commas between them, and a word before the last. -/
def listWords : List String → String
  | [] => ""
  | [word] => "'" ++ word ++ "'"
  | [first, last] => "'" ++ first ++ "' or '" ++ last ++ "'"
  | first :: rest => "'" ++ first ++ "', " ++ listWords rest

/-- A complaint in words. -/
def message (complaint : Complaint) (report : DepthReport := .apart) : String :=
  match complaint with
  | missing => "Field required"
  | notString => "Input should be a valid string"
  | notList => "Input should be a valid list"
  | notTuple => "Input should be a valid tuple"
  | notDictionary => "Input should be a valid dictionary"
  | notModel model => "Input should be a valid dictionary or instance of " ++ model
  | notChoice allowed => "Input should be " ++ listWords allowed
  | notBoolean => "Input should be a valid boolean"
  | unclearBoolean => "Input should be a valid boolean, unable to interpret input"
  | shape rule => "Value error, " ++ rule.message
  | longPair length =>
      "Tuple should have at most 2 items after validation, not " ++ toString length
  | cycle => "Recursion error - cyclic reference detected"
  | deep =>
      match report with
      | .asLoop => "Recursion error - cyclic reference detected"
      | .apart => "Recursion error - maximum validation depth exceeded"

end Complaint

/-- A complaint and the place that it is about. -/
structure Fault where
  location : List Step
  complaint : Complaint
  deriving DecidableEq, Repr

/-- The same fault seen from a value that holds the faulty one as a part. -/
def Fault.under (fault : Fault) (step : Step) : Fault :=
  { fault with location := step :: fault.location }

/-- The outcome of a validation: the value, or all faults in order. -/
inductive Validated (α : Type)
  | accepted (value : α)
  | rejected (faults : List Fault)

namespace Validated

variable {α β : Type}

/-- A single fault at the place that is being validated. -/
def complain (complaint : Complaint) : Validated α :=
  .rejected [⟨[], complaint⟩]

/-- Convert an accepted value. -/
def map (convert : α → β) : Validated α → Validated β
  | .accepted value => .accepted (convert value)
  | .rejected faults => .rejected faults

/-- Two parts of a value, both of which have to be accepted. -/
def both (first : Validated (α → β)) (second : Validated α) : Validated β :=
  match first, second with
  | .accepted convert, .accepted value => .accepted (convert value)
  | .accepted _, .rejected faults => .rejected faults
  | .rejected faults, .accepted _ => .rejected faults
  | .rejected faults, .rejected more => .rejected (faults ++ more)

instance : Applicative Validated where
  pure := .accepted
  map := map
  seq first second := both first (second ())

/-- The outcome for a part, seen from the value that holds it. -/
def under (outcome : Validated α) (step : Step) : Validated α :=
  match outcome with
  | .accepted value => .accepted value
  | .rejected faults => .rejected (faults.map (Fault.under · step))

/-- A further check of an accepted value. -/
def check (outcome : Validated α) (complaint? : α → Option Complaint) : Validated α :=
  match outcome with
  | .accepted value =>
      match complaint? value with
      | some complaint => complain complaint
      | none => .accepted value
  | .rejected faults => .rejected faults

/-- All outcomes of a list. -/
def all : List (Validated α) → Validated (List α)
  | [] => .accepted []
  | outcome :: rest => both (map List.cons outcome) (all rest)

end Validated

/-- Values that were refused as a model: its name and the faults. -/
structure Rejection where
  model : String
  faults : List Fault
  deriving DecidableEq, Repr

/-- The headline of a rejection. -/
def Rejection.message (rejection : Rejection) : String :=
  let count := rejection.faults.length
  toString count ++ (if count = 1 then " validation error for " else " validation errors for ")
    ++ rejection.model

/-- The outcome of validating a value as a model. -/
def Validated.toExcept {α : Type} (outcome : Validated α) (model : String) : Except Rejection α :=
  match outcome with
  | .accepted value => .ok value
  | .rejected faults => .error ⟨model, faults⟩

/-- A reference to a type that obeys the rules of its kind. -/
def TypeRef.checked (type : TypeRef) : Except Rejection TypeRef :=
  match type.brokenRule? with
  | some rule => .error ⟨"TypeDescriptor", [⟨[], .shape rule⟩]⟩
  | none => .ok type

end CatalogClient
