/-
# Settings files as tables

After the outline of a settings file is drawn, its lines build up its table one by one. An entry
goes into the table that the last heading opened. Lines without an equals sign say nothing.
-/

import CatalogClient.Toml.Heading
import CatalogClient.Toml.Outline
import CatalogClient.Toml.Value

namespace CatalogClient.Toml

/-- How many levels of values there may be. -/
def deepestValue : Nat := 989

/-- A table that is being built: what it holds so far, where the last heading leads (nowhere if to a
letter of a text), the names that headings only passed, and a value of several lines. -/
structure Building where
  root : Toml := .table []
  steps : Option (List Step) := some []
  passed : List String := []
  pending : Option Pending := none

namespace Building

/-- Change the value that the last heading opened. -/
def changeCurrent {α : Type} (building : Building)
    (change : Toml → Except Fault (Toml × α)) : Except Fault (Building × α) :=
  match building.steps with
  | none => (change (.string "")).map fun (_, answer) => (building, answer)
  | some steps =>
      (changeAt change steps building.root).map fun (root, answer) =>
        ({ building with root }, answer)

/-- Whether a line completes a value of several lines, given the text of both. -/
def completes (text line : List Char) : Except Fault Bool :=
  match text with
  | [] => .error .endsEarly
  | mark :: _ =>
      if mark = '[' then
        match line.getLast? with
        | none => .error .endsEarly
        | some last => .ok (last = ']')
      else .ok (2 < line.length && (line.reverse.take 3).all (· = mark))

/-- Go on with a line of a value of several lines. -/
def complete (building : Building) (pending : Pending) (line : List Char) :
    Except Fault Building := do
  let text := pending.text ++ line
  if ← completes text line then
    let value ← readValue deepestValue true text
    let put : Toml → Except Fault (Toml × Unit)
      | .table entries => .ok (.table (Keyed.put entries pending.key value), ())
      | _ => .error .wrongKind
    return ({ (← building.changeCurrent put).1 with pending := none })
  else return { building with pending := some (Pending.ofText pending.key text) }

/-- Go on with a heading. -/
def openHeading (building : Building) (line : List Char) : Except Fault Building :=
  match readHeading line with
  | none => .error .malformed
  | some heading =>
      (openNames heading.isList building.passed heading.names building.root).map fun opened =>
        ⟨opened.value, opened.steps, opened.passed, none⟩

/-- Go on with a table within a line, whose entries go into the current table. -/
def addBraced (building : Building) (line : List Char) : Except Fault Building := do
  if line.getLast? ≠ some '\x7d' then throw .malformed
  let add (place : Toml) : Except Fault (Toml × Unit) :=
    (addInline (readValue (deepestValue - 2)) line place).map (·, ())
  return (← building.changeCurrent add).1

/-- Go on with a line that is not within a value. -/
def addLine (building : Building) (line : List Char) : Except Fault Building :=
  match line with
  | [] => .ok building
  | first :: _ =>
      if first = '[' then building.openHeading line
      else if first = '\x7b' then building.addBraced line
      else if line.contains '=' then
        (building.changeCurrent (addEntry (readValue (deepestValue - 1)) line)).map
          fun (building, pending) => { building with pending }
      else .ok building

/-- Go on with a line. Within a value of several lines, the blanks around a line count after the
first line end. -/
def step (building : Building) (line : List Char) : Except Fault Building :=
  match building.pending with
  | none => building.addLine (Text.trim line)
  | some pending =>
      let line :=
        if pending.isEscaped || !pending.text.contains '\n' then Text.trim line else line
      if line.isEmpty && pending.isEscaped then .ok building else building.complete pending line

end Building

/-- The table of a settings file. -/
def readFile (text : List Char) : Except Fault (Keyed Toml) := do
  let lines := Text.partsBetween '\n' (← outline text)
  match (← lines.foldlM Building.step {}).root with
  | .table entries => return entries
  | _ => throw .wrongKind

end CatalogClient.Toml
