/-
# Headings of settings files

A heading in brackets opens the table that its names lead to, and makes the tables that are missing.
One in double brackets opens a new table at the end of a list. On the way through a list the last
table counts. No table is opened twice, but one that was only passed on the way to another may still
be opened; this is noted by its name alone, wherever it stands.
-/

import CatalogClient.Toml.Entry
import CatalogClient.Toml.Printer

namespace CatalogClient.Toml

/-! ## Names -/

/-- Whether a name is between the quotes that it starts with. -/
def isClosedName (name : List Char) : Bool :=
  1 < name.length && name.head? = name.getLast?

/-- A name that starts with a quote, with the parts after points that belong to it, and the parts
that are left. -/
def closeName (name : List Char) : List (List Char) → Option (List Char × List (List Char))
  | [] => if isClosedName (Text.trim name) then some (inner (Text.trim name), []) else none
  | part :: rest =>
      if isClosedName (Text.trim name) then some (inner (Text.trim name), part :: rest)
      else closeName (name ++ '.' :: part) rest

/-- The names of a heading, given its parts between points. The limit is the number of parts. -/
def readNames : Nat → List (List Char) → Option (List String)
  | limit + 1, part :: rest => do
      let name := Text.trim part
      if name.head?.any isQuote then
        let (name, left) ← closeName name rest
        return String.ofList name :: (← readNames limit left)
      else if !name.isEmpty && name.all isPlainKeyChar then
        return String.ofList name :: (← readNames limit rest)
      else none
  | _, _ => some []

/-- A heading: whether it opens a table of a list, and its names. -/
structure Heading where
  isList : Bool
  names : List String
  deriving DecidableEq, Repr

/-- The heading that a line is. Nothing may follow its closing bracket. -/
def readHeading (line : List Char) : Option Heading := do
  let isList := (line.drop 1).head? = some '['
  let mark := if isList then [']', ']'] else [']']
  let text := line.drop (if isList then 2 else 1)
  if line.length = 1 then none
  let place := placeOutside mark false (partsAtQuotes text)
  let parts := Text.splitAtMarks mark place text
  if parts.length < place + 1 || !(Text.trim (parts.getLastD [])).isEmpty then none
  let parts := Text.partsBetween '.' (mark.intercalate parts.dropLast)
  return ⟨isList, ← readNames parts.length parts⟩

/-! ## Opening -/

/-- A step from a value into another one: to a key of a table or to the last item of a list. -/
inductive Step
  | key (name : String)
  | last
  deriving DecidableEq, Repr

/-- What opening a heading leaves: the changed value, the steps to the opened one (none if it is but
a letter of a text), and the names that were only passed. -/
structure Opened where
  value : Toml
  steps : Option (List Step)
  passed : List String

/-- The same after a step into a table. -/
def Opened.underKey (opened : Opened) (entries : List (String × Toml)) (name : String) :
    Opened where
  value := .table (Keyed.put entries name opened.value)
  steps := opened.steps.map (.key name :: ·)
  passed := opened.passed

/-- The same after a step to the end of a list. -/
def Opened.atEnd (opened : Opened) (items : List Toml) : Opened where
  value := .list (items.dropLast ++ [opened.value])
  steps := opened.steps.map (.last :: ·)
  passed := opened.passed

/-- What stands under the last name of a heading before it is opened, and the passed names that
remain; a name without anything under it gets an empty table, or a list with one. -/
def openLast (isList : Bool) (passed : List String) (name : String) :
    Option Toml → Except Fault (Toml × List String)
  | none => .ok (if isList then .list [.table []] else .table [], passed)
  | some value =>
      if name ∈ passed then
        if isList then .error .malformed else .ok (value, passed.erase name)
      else if isList then
        match value with
        | .list items => .ok (.list (items ++ [.table []]), passed)
        | _ => .error .noList
      else .error .malformed

/-- Go on from what stands under a name. A heading of a list goes to the end of what is no table. -/
def goOn (isList : Bool) (next : Toml → Except Fault Opened) (value : Toml) :
    Except Fault Opened :=
  if !isList then next value
  else
    match value with
    | .table _ => next value
    | .list items =>
        match items.getLast? with
        | none => .error .endsEarly
        | some item => (next item).map (·.atEnd items)
    | .string text =>
        match text.toList.getLast? with
        | none => .error .endsEarly
        | some c =>
            (next (.string c.toString)).map fun opened => { opened with value, steps := none }
    | _ => .error .wrongKind

/-- Open the names of a heading from a value on. -/
def openNames (isList : Bool) (passed : List String) :
    List String → Toml → Except Fault Opened
  | [], value => .ok ⟨value, some [], passed⟩
  | name :: rest, value =>
      if name = "" then .error .malformed
      else
        match value with
        | .table entries => do
            let found := Keyed.get? entries name
            let (value, passed) ←
              if rest.isEmpty then openLast isList passed name found
              else .ok (found.getD (.table []),
                if found.isSome then passed else passed ++ [name])
            return (← goOn isList (openNames isList passed rest) value).underKey entries name
        | .list items =>
            match items.getLast? with
            | none => .error .endsEarly
            | some (.table entries) => do
                let made : Toml := if rest.isEmpty && isList then .list [.table []] else .table []
                let value := (Keyed.get? entries name).getD made
                let opened ← goOn isList (openNames isList passed rest) value
                return (opened.underKey entries name).atEnd items
            | some _ => .error .wrongKind
        | .string text => .error (if text = "" then .endsEarly else .wrongKind)
        | _ => .error .wrongKind

/-- Change the value that steps lead to. -/
def changeAt {α : Type} (change : Toml → Except Fault (Toml × α)) :
    List Step → Toml → Except Fault (Toml × α)
  | [], value => change value
  | .key name :: steps, .table entries => do
      let (value, answer) ← changeAt change steps ((Keyed.get? entries name).getD .absent)
      return (.table (Keyed.put entries name value), answer)
  | .last :: steps, .list items => do
      let (value, answer) ← changeAt change steps (items.getLastD .absent)
      return (.list (items.dropLast ++ [value]), answer)
  | _ :: _, _ => .error .wrongKind

end CatalogClient.Toml
