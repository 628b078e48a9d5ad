/-
# Type expressions

The type of a value as it stands in TypeScript source: words, and groups of expressions that may
be wrapped as the arguments of a named type. A wrapper without anything inside is no type at all
and gives way to the type of all values.
-/

import CatalogClient.Catalog.Basic

namespace CatalogClient

/-- A type expression. -/
inductive Expression
  | word (text : String)
  | group (items : List Expression) (wrapper : Option String)
  deriving Repr, Inhabited

/-- The name of the type of all values. -/
def anyType : String := "any"

namespace Expression

/-- A group of a single word. -/
def ofWord (text : String) : Expression :=
  .group [.word text] none

/-- The type of all values. -/
def any : Expression :=
  ofWord anyType

/-- A text inside a wrapper; an empty text leaves nothing to wrap. -/
def wrap (wrapper : Option String) (text : String) : String :=
  match wrapper with
  | none => text
  | some name => if text = "" then anyType else name ++ "<" ++ text ++ ">"

mutual

/-- The source text of an expression. -/
def render : Expression → String
  | .word text => text
  | .group items wrapper => wrap wrapper (", ".intercalate (renderAll items))

/-- The source texts of several expressions. -/
def renderAll : List Expression → List String
  | [] => []
  | item :: rest => render item :: renderAll rest

end

theorem renderAll_eq_map (items : List Expression) : renderAll items = items.map render := by
  induction items with
  | nil => rfl
  | cons item rest ih => simp [renderAll, ih]

mutual

/-- Equality of expressions is decided part by part. -/
def decEq : (left right : Expression) → Decidable (left = right)
  | .word text, .word text' => decidable_of_iff (text = text') (by simp)
  | .word _, .group _ _ => isFalse (by simp)
  | .group _ _, .word _ => isFalse (by simp)
  | .group items wrapper, .group items' wrapper' =>
      haveI := decEqList items items'
      decidable_of_iff (items = items' ∧ wrapper = wrapper') (by simp)

/-- Equality of lists of expressions. -/
def decEqList : (left right : List Expression) → Decidable (left = right)
  | [], [] => isTrue rfl
  | [], _ :: _ => isFalse (by simp)
  | _ :: _, [] => isFalse (by simp)
  | left :: lefts, right :: rights =>
      haveI := decEq left right
      haveI := decEqList lefts rights
      decidable_of_iff (left = right ∧ lefts = rights) (by simp)

end

instance : DecidableEq Expression := decEq

/-- Whether an expression stands for a type: every expression but the empty word does. -/
def isPresent : Expression → Bool
  | .word text => decide (text ≠ "")
  | .group _ _ => true

end Expression

/-- A named value: an argument of a function or a member of an interface. -/
structure Argument where
  name : String
  type : Option Expression := none
  source : ParameterSource := .none
  deriving DecidableEq

/-- The name of an argument, with its type if it has one. -/
def Argument.render (argument : Argument) : String :=
  match argument.type with
  | none => argument.name
  | some type =>
      if type.isPresent then argument.name ++ ": " ++ type.render else argument.name

end CatalogClient
