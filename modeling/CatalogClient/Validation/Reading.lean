/-
# Reading validated values

How the simple parts of a model are validated: texts, words from a fixed list, truth values, lists
and objects, and the fields of a model, which may be required or have a default.
-/

import CatalogClient.Json.Document
import CatalogClient.Validation.Fault

namespace CatalogClient

/-- How many models of one kind may stand in each other where the outermost one stands alone. -/
def roomAtTop : Nat := 255

/-- How many models of one kind may stand in each other where the outermost one is part of another
model. -/
def roomInside : Nat := 254

/-- A way to validate the value at a place of a document. -/
abbrev Reader (α : Type) := Document → Place → Validated α

namespace Reader

variable {α : Type}

/-- A text. -/
def text : Reader String := fun document place =>
  match document.view place with
  | .string value => .accepted value
  | _ => .complain .notString

/-- A value that may be absent, which a null stands for. -/
def optional (read : Reader α) : Reader (Option α) := fun document place =>
  match document.view place with
  | .null => .accepted none
  | _ => (read document place).map some

/-- One of the listed choices, given by its word. -/
def choice (all : List α) (label : α → String) : Reader α := fun document place =>
  let refused := .complain (.notChoice (all.map label))
  match document.view place with
  | .string word => ((all.find? fun value => label value = word).map .accepted).getD refused
  | _ => refused

/-- The words for true and for false, in lower case. -/
def truthWords : List (String × Bool) :=
  [("0", false), ("off", false), ("f", false), ("false", false), ("n", false), ("no", false),
    ("1", true), ("on", true), ("t", true), ("true", true), ("y", true), ("yes", true)]

/-- A truth value, also as a number or as one of the words for it. -/
def truth : Reader Bool := fun document place =>
  match document.view place with
  | .bool value => .accepted value
  | .number value =>
      match value.truth with
      | .value truth => .accepted truth
      | .otherWhole => .complain .unclearBoolean
      | .notWhole => .complain .notBoolean
  | .string word =>
      match truthWords.lookup (String.ofList (word.toList.map Char.toLower)) with
      | some truth => .accepted truth
      | none => .complain .unclearBoolean
  | _ => .complain .notBoolean

/-- The items of a list, each with its position. -/
def items (read : Place → Validated α) (places : List Place) : Validated (List α) :=
  .all (places.zipIdx.map fun entry => (read entry.1).under (.index entry.2))

/-- A list whose items are read in one way, and the complaint about anything else. -/
def list (read : Reader α) (otherwise : Complaint) : Reader (List α) := fun document place =>
  match document.view place with
  | .array places => items (read document) places
  | _ => .complain otherwise

/-- A pair of texts. The items of a longer list are not looked at. -/
def textPair : Reader (String × String) := fun document place =>
  match document.view place with
  | .array places =>
      let part (position : Nat) : Validated String :=
        (match places[position]? with
          | some part => text document part
          | none => .complain .missing).under (.index position)
      if places.length ≤ 2 then Prod.mk <$> part 0 <*> part 1
      else .complain (.longPair places.length)
  | _ => .complain .notTuple

/-- An object whose values are read in one way. -/
def dictionary (read : Reader α) : Reader (Keyed α) := fun document place =>
  match document.view place with
  | .object members =>
      .all (members.map fun member =>
        ((read document member.2).map fun value => (member.1, value)).under (.key member.1))
  | _ => .complain .notDictionary

/-- A model whose fields are read from the members of an object. -/
def model (name : String) (fields : Document → Keyed Place → Validated α) : Reader α :=
  fun document place =>
    match document.view place with
    | .object members => fields document members
    | _ => .complain (.notModel name)

end Reader

/-- A field that has to be there. -/
def Keyed.required {α : Type} (members : Keyed Place) (name : String) (read : Place → Validated α) :
    Validated α :=
  (match members.get? name with
    | some place => read place
    | none => .complain .missing).under (.key name)

/-- A field that has a default. -/
def Keyed.withDefault {α : Type} (members : Keyed Place) (name : String) (default : α)
    (read : Place → Validated α) : Validated α :=
  match members.get? name with
  | some place => (read place).under (.key name)
  | none => .accepted default

end CatalogClient
