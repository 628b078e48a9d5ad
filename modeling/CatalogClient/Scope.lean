/-
# Scanned packages

Only types of the scanned packages are generated. A package is scanned when its name starts with
one of the given starts; a type without a package, or in a package without a name, never is.
-/

import CatalogClient.Text.Quoted

namespace CatalogClient

/-- The starts of the names of all scanned packages. -/
structure Scope where
  starts : List String
  deriving DecidableEq

namespace Scope

/-- The scope of a list of starts; an empty start would admit every package and does not count. -/
def ofPackages (packages : List String) : Scope :=
  ⟨packages.filter fun start => decide (start ≠ "")⟩

/-- Whether a text begins with the given start. -/
def begins (start text : String) : Bool :=
  start.toList.isPrefixOf text.toList

/-- Whether the types of a package are scanned. -/
def admits (scope : Scope) (package : Option String) : Bool :=
  match package with
  | none => false
  | some name => name ≠ "" && scope.starts.any fun start => begins start name

/-- The scope in words. -/
def describe (scope : Scope) : String :=
  "ScanFilter(" ++ Text.quoteAll scope.starts ++ ")"

theorem admits_some_iff (scope : Scope) (name : String) :
    scope.admits (some name) = true ↔
      name ≠ "" ∧ ∃ start ∈ scope.starts, start.toList <+: name.toList := by
  simp [admits, begins]

end Scope

end CatalogClient
