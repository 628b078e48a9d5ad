/-
# Values of settings files

A settings file in TOML is a table: keys with values in order. A value is a text, a number, a
truth value, a moment of time, a list of values of one shape, or a table again. Where values come
from elsewhere, a list may also have empty places.
-/

import CatalogClient.Keyed
import CatalogClient.Toml.Moment

namespace CatalogClient

/-- A value of a settings file. -/
inductive Toml
  | string (value : String)
  | number (value : Number)
  | truth (value : Bool)
  | moment (value : Toml.Moment)
  | list (items : List Toml)
  | table (entries : List (String × Toml))
  | absent

namespace Toml

mutual

/-- Whether two values are equal. -/
def decEq : (left right : Toml) → Decidable (left = right)
  | .string first, .string second => decidable_of_iff (first = second) (by simp)
  | .number first, .number second => decidable_of_iff (first = second) (by simp)
  | .truth first, .truth second => decidable_of_iff (first = second) (by simp)
  | .moment first, .moment second => decidable_of_iff (first = second) (by simp)
  | .list first, .list second =>
      haveI := decEqItems first second
      decidable_of_iff (first = second) (by simp)
  | .table first, .table second =>
      haveI := decEqEntries first second
      decidable_of_iff (first = second) (by simp)
  | .absent, .absent => isTrue rfl
  | .string _, .number _ | .string _, .truth _ | .string _, .moment _
  | .string _, .list _ | .string _, .table _ | .string _, .absent => isFalse nofun
  | .number _, .string _ | .number _, .truth _ | .number _, .moment _
  | .number _, .list _ | .number _, .table _ | .number _, .absent => isFalse nofun
  | .truth _, .string _ | .truth _, .number _ | .truth _, .moment _
  | .truth _, .list _ | .truth _, .table _ | .truth _, .absent => isFalse nofun
  | .moment _, .string _ | .moment _, .number _ | .moment _, .truth _
  | .moment _, .list _ | .moment _, .table _ | .moment _, .absent => isFalse nofun
  | .list _, .string _ | .list _, .number _ | .list _, .truth _
  | .list _, .moment _ | .list _, .table _ | .list _, .absent => isFalse nofun
  | .table _, .string _ | .table _, .number _ | .table _, .truth _
  | .table _, .moment _ | .table _, .list _ | .table _, .absent => isFalse nofun
  | .absent, .string _ | .absent, .number _ | .absent, .truth _
  | .absent, .moment _ | .absent, .list _ | .absent, .table _ => isFalse nofun

/-- Whether two lists of values are equal. -/
def decEqItems : (left right : List Toml) → Decidable (left = right)
  | [], [] => isTrue rfl
  | [], _ :: _ | _ :: _, [] => isFalse nofun
  | left :: lefts, right :: rights =>
      haveI := decEq left right
      haveI := decEqItems lefts rights
      decidable_of_iff (left = right ∧ lefts = rights) (by simp)

/-- Whether two lists of entries are equal. -/
def decEqEntries : (left right : List (String × Toml)) → Decidable (left = right)
  | [], [] => isTrue rfl
  | [], _ :: _ | _ :: _, [] => isFalse nofun
  | (name, left) :: lefts, (name', right) :: rights =>
      haveI := decEq left right
      haveI := decEqEntries lefts rights
      decidable_of_iff ((name = name' ∧ left = right) ∧ lefts = rights) (by simp)

end

instance : DecidableEq Toml := decEq

/-- Why a text is no settings file. Most faults make it malformed. A few are found where nothing
looks for them: a text ends before what should follow, a list is needed where there is none, a value
is of the wrong kind, a number is beyond all bounds, a value of several lines has an empty key, the
values are nested too deeply, or a time is a day or more away from universal time. -/
inductive Fault
  | malformed
  | endsEarly
  | noList
  | wrongKind
  | beyondBounds
  | nameless
  | deep
  | farOffset
  deriving DecidableEq, Repr

/-- The shapes of values; a list holds values of one shape only. A date has the same shape with and
without a time. -/
inductive Shape
  | string
  | integer
  | float
  | truth
  | date
  | time
  | list
  | table
  | absent
  deriving DecidableEq, Repr

/-- The shape of a value. -/
def shape : Toml → Toml.Shape
  | .string _ => .string
  | .number (.integer _) => .integer
  | .number _ => .float
  | .truth _ => .truth
  | .moment (.time _) => .time
  | .moment _ => .date
  | .list _ => .list
  | .table _ => .table
  | .absent => .absent

/-- Whether a value counts as set: zero, the empty text and whatever holds nothing do not. -/
def isSet : Toml → Bool
  | .string value => decide (value ≠ "")
  | .number value => !value.isZero
  | .truth value => value
  | .moment _ => true
  | .list items => !items.isEmpty
  | .table entries => !entries.isEmpty
  | .absent => false

/-- The values that another one holds: the items of a list, the keys of a table, or the letters of a
text. -/
def parts? : Toml → Option (List Toml)
  | .list items => some items
  | .table entries => some (entries.map fun entry => .string entry.1)
  | .string value => some (value.toList.map fun c => .string c.toString)
  | _ => none

/-- The text that a value is. -/
def text? : Toml → Option String
  | .string value => some value
  | _ => none

end Toml

end CatalogClient
