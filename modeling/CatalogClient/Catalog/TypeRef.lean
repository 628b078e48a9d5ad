/-
# References to server types

A type of the server is referred to by its kind, its name and package, and the types that it is
made of. Declared types carry only their name: their members stand in the declarations of the
catalog. The kind of a reference decides which of its parts have to be there.
-/

namespace CatalogClient

/-- What a server type is. -/
inductive TypeKind
  | void
  | primitive
  | string
  | boolean
  | number
  | array
  | enumeration
  | composite
  | parameterized
  | typeVariable
  | wildcard
  | unknown
  deriving DecidableEq, Repr

namespace TypeKind

/-- The word for a kind in a catalog document. -/
def label : TypeKind → String
  | void => "void"
  | primitive => "primitive"
  | string => "string"
  | boolean => "boolean"
  | number => "number"
  | array => "array"
  | enumeration => "enum"
  | composite => "composite"
  | parameterized => "parameterized"
  | typeVariable => "type_variable"
  | wildcard => "wildcard"
  | unknown => "unknown"

/-- All kinds in the order in which messages list them. -/
def all : List TypeKind :=
  [void, primitive, string, boolean, number, array, enumeration, composite, parameterized,
    typeVariable, wildcard, unknown]

theorem mem_all (kind : TypeKind) : kind ∈ all := by
  cases kind <;> decide

end TypeKind

/-- How the arguments of a parameterized type are read. -/
inductive RawKind
  | map
  | collection
  | other
  deriving DecidableEq, Repr

namespace RawKind

/-- The word for a raw kind in a catalog document. -/
def label : RawKind → String
  | map => "map"
  | collection => "collection"
  | other => "other"

/-- All raw kinds in the order in which messages list them. -/
def all : List RawKind :=
  [map, collection, other]

theorem mem_all (kind : RawKind) : kind ∈ all := by
  cases kind <;> decide

end RawKind

/-- A reference to a server type. The component belongs to arrays, the raw kind, raw type and
arguments to parameterized types, and the bounds to wildcards. -/
structure TypeRef where
  kind : TypeKind := .unknown
  name : Option String := none
  package : Option String := none
  component : Option TypeRef := none
  rawKind : Option RawKind := none
  raw : Option TypeRef := none
  arguments : List TypeRef := []
  bounds : List TypeRef := []
  deriving Repr

/-- A name inside a package: the two joined by a dot, or the name alone when the package is absent
or empty. -/
def qualify (package : Option String) (name : String) : String :=
  match package with
  | none => name
  | some outer => if outer = "" then name else outer ++ "." ++ name

namespace TypeRef

mutual

/-- Equality of references is decided part by part. -/
def decEq : (left right : TypeRef) → Decidable (left = right)
  | ⟨kind, name, package, component, rawKind, raw, arguments, bounds⟩,
    ⟨kind', name', package', component', rawKind', raw', arguments', bounds'⟩ =>
      haveI := decEqOption component component'
      haveI := decEqOption raw raw'
      haveI := decEqList arguments arguments'
      haveI := decEqList bounds bounds'
      decidable_of_iff
        (kind = kind' ∧ name = name' ∧ package = package' ∧ component = component' ∧
          rawKind = rawKind' ∧ raw = raw' ∧ arguments = arguments' ∧ bounds = bounds')
        (by simp)

/-- Equality of optional references. -/
def decEqOption : (left right : Option TypeRef) → Decidable (left = right)
  | none, none => isTrue rfl
  | none, some _ => isFalse (by simp)
  | some _, none => isFalse (by simp)
  | some left, some right =>
      haveI := decEq left right
      decidable_of_iff (left = right) (by simp)

/-- Equality of lists of references. -/
def decEqList : (left right : List TypeRef) → Decidable (left = right)
  | [], [] => isTrue rfl
  | [], _ :: _ => isFalse (by simp)
  | _ :: _, [] => isFalse (by simp)
  | left :: lefts, right :: rights =>
      haveI := decEq left right
      haveI := decEqList lefts rights
      decidable_of_iff (left = right ∧ lefts = rights) (by simp)

end

instance : DecidableEq TypeRef := decEq

/-- A reference of a kind that is its name alone. -/
def named (kind : TypeKind) (name : Option String) (package : Option String := none) : TypeRef :=
  { kind, name, package }

/-- The word for an absent name. -/
def absentName : String := "None"

/-- The name of a reference without its package; an absent name is empty. -/
def simpleName (type : TypeRef) : String :=
  type.name.getD ""

/-- The name of a reference within its package. An absent name is empty outside a package and
written out as a word inside one. -/
def qualifiedName (type : TypeRef) : String :=
  if type.package.getD "" = "" then type.simpleName
  else qualify type.package (type.name.getD absentName)

/-- Whether a reference is to a declared type: a composite or an enumeration. -/
def isDeclared (type : TypeRef) : Bool :=
  type.kind = .composite || type.kind = .enumeration

/-- Whether the name of a reference is there and not empty. -/
def hasName (type : TypeRef) : Bool :=
  type.simpleName ≠ ""

end TypeRef

/-- A rule on the parts of a reference that its kind asks for. -/
inductive ShapeRule
  | component
  | name (kind : TypeKind)
  | rawKind
  | arguments
  | mapArguments
  | collectionArgument
  | raw
  deriving DecidableEq, Repr

/-- The text that names a broken rule. -/
def ShapeRule.message : ShapeRule → String
  | .component => "array descriptor requires a component type"
  | .name kind => kind.label ++ " descriptor requires a name"
  | .rawKind => "parameterized descriptor requires raw_kind"
  | .arguments => "parameterized descriptor requires type arguments"
  | .mapArguments => "map descriptor requires exactly two type arguments"
  | .collectionArgument => "collection descriptor requires one type argument"
  | .raw => "parameterized descriptor requires its raw type"

/-- The first rule that a reference breaks at its top. Arrays need a component, named kinds a name
that is not empty, and parameterized types a raw kind, arguments in the right number, and, unless
they are maps or collections, a raw type. -/
def TypeRef.brokenRule? (type : TypeRef) : Option ShapeRule :=
  match type.kind with
  | .array => if type.component.isNone then some .component else none
  | .enumeration | .composite | .typeVariable =>
      if type.hasName then none else some (.name type.kind)
  | .parameterized =>
      if type.rawKind.isNone then some .rawKind
      else if type.arguments.isEmpty then some .arguments
      else if type.rawKind = some .map ∧ type.arguments.length ≠ 2 then some .mapArguments
      else if type.rawKind = some .collection ∧ type.arguments.length ≠ 1 then
        some .collectionArgument
      else if type.rawKind = some .other ∧ type.raw.isNone then some .raw
      else none
  | _ => none

end CatalogClient
