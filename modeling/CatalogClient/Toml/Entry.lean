/-
# Entries of settings files

An entry is a key, an equals sign and a value. The key may be a path between points and may stand
between quotes, so the equals sign in question has to be found first. A value that starts with three
quotes and does not end with them goes on in the next line.
-/

import CatalogClient.Toml.Items
import CatalogClient.Toml.Plain

namespace CatalogClient.Toml

/-! ## Quotes in a line -/

/-- The parts of a line that starts with a text between single quotes: as long as one of these is
open, the parts between double quotes belong to it. The second answer is what is left of those. -/
def mendSingles (singles : List (List Char)) :
    List (List Char) → List (List Char) × List (List Char)
  | [] => (singles, [])
  | part :: rest =>
      if singles.length % 2 = 0 then
        let last := singles.getLastD [] ++ '"' :: part
        mendSingles (singles.dropLast ++ Text.partsBetween '\'' last) rest
      else (singles, part :: rest)

/-- Cut the first part at its single quotes. -/
def cutFirst : List (List Char) → List (List Char)
  | [] => []
  | part :: rest => Text.partsBetween '\'' part ++ rest

/-- The parts of a line outside of and between quotes, in turn. -/
def partsAtQuotes (line : List Char) : List (List Char) :=
  match Text.partsBetween '"' line with
  | first :: second :: rest =>
      if first.contains '\'' then
        let (singles, left) := mendSingles (Text.partsBetween '\'' first) (second :: rest)
        singles ++ cutFirst left
      else cutFirst (first :: second :: rest)
  | parts => cutFirst parts

/-- Which occurrence of a mark is the first one outside of quotes, given the parts at quotes and
whether the first of them stands between some. -/
def placeOutside (mark : List Char) (isQuoted : Bool) : List (List Char) → Nat
  | [] => 1
  | part :: rest =>
      let count := (Text.splitAtAllMarks mark part).length - 1
      if !isQuoted && count ≠ 0 then 1 else count + placeOutside mark (!isQuoted) rest

/-! ## The equals sign -/

/-- Whether a text can be the value of an entry. -/
def canBeValue (text : List Char) : Except Fault Bool :=
  let word := Text.trim text
  if text.head?.all ([' ', '\t', '\'', '"', '[', '\x7b'].contains ·) || word = "true".toList
      || word = "false".toList || (Text.readDecimal? text).isSome then .ok true
  else (readMoment text).map fun found => found.isSome || (timeNumbers? text).isSome

/-- The text after an equals sign, given which one it is. -/
def afterEquals (place : Nat) (line : List Char) : List Char :=
  (Text.splitAtMarks ['='] place line).getLastD []

/-- The equals sign from which on the text can be a value, starting with the given one; the text
after it; and whether all texts that were tried can be numbers. -/
def settleEquals (line : List Char) (place : Nat) (value : List Char) (strict : Bool) :
    Nat → Except Fault (Nat × List Char × Bool)
  | 0 => .error .malformed
  | tries + 1 => do
      if ← canBeValue value then return (place, value, strict)
      let next := afterEquals (place + 1) line
      if next = value then throw .malformed
      settleEquals line (place + 1) next (strict && isStrict next) tries

/-- The key, the value, and whether the value may be a number. -/
def cutEntry (line : List Char) : Except Fault (List Char × List Char × Bool) := do
  let place := placeOutside ['='] false (partsAtQuotes line)
  let value := afterEquals place line
  let first := if value.head?.any Text.isUsualDigit then value.filter (· ≠ '_') else value
  let (place, value, strict) ← settleEquals line place first (isStrict value) (line.length + 2)
  let key := ['='].intercalate (Text.splitAtMarks ['='] place line).dropLast
  return (Text.trim key, Text.trim value, strict)

/-! ## Keys -/

/-- The parts of a key between points; a point between quotes is none. -/
def cutKey (isQuoted : Bool) : List (List Char) → List (List Char)
  | [] => []
  | part :: rest =>
      (if isQuoted then [part] else (Text.partsBetween '.' part).map Text.trim)
        ++ cutKey (!isQuoted) rest

/-- The tables that a key leads through, and the key of the last one. Escapes are read in a whole
key between quotes of either kind, but not in the parts of a key with points. -/
def readKey (key : List Char) : Except Fault (List String × String) :=
  if key.contains '.' then
    let parts :=
      if key.any isQuote then cutKey false (partsAtQuotes key) else Text.partsBetween '.' key
    match parts.reverse.dropWhile (·.isEmpty) with
    | [] => .error .endsEarly
    | last :: path =>
        .ok ((path.reverse.filter fun part => !part.isEmpty).map String.ofList,
          String.ofList (Text.trim last))
  else
    match key with
    | [] => .error .endsEarly
    | first :: _ =>
        if isQuote first && key.getLast? = some first then
          (replaceEscapes (inner key)).map fun name => ([], String.ofList name)
        else .ok ([], String.ofList key)

/-! ## Values of several lines -/

/-- A value of several lines that is not complete: its key, its text so far, and whether the last
line end was escaped. -/
structure Pending where
  key : String
  text : List Char
  isEscaped : Bool
  deriving DecidableEq, Repr

/-- The last part of a list that starts with a quote, given the last part and the ones before it in
reverse. -/
def lastText (last : List Char) : List (List Char) → Except Fault (List Char)
  | [] => .ok last
  | before :: rest =>
      match last with
      | [] => .error .endsEarly
      | c :: _ => if isQuote c then .ok last else lastText (before ++ ',' :: last) rest

/-- The part of a value that may go on in the next line: the last text of a list, or all of it. -/
def openPart (value : List Char) : Except Fault (List Char) :=
  if value.head? = some '[' && value.getLast? ≠ some ']' && startsWithText value then
    match (Text.partsBetween ',' (Text.trim (value.drop 1))).reverse with
    | [] => .ok []
    | last :: before => lastText last before
  else .ok value

/-- Whether a value goes on in the next line. -/
def goesOn (value : List Char) : Except Fault Bool := do
  if value.length < 3 then return false
  match ← openPart value with
  | [] => throw .endsEarly
  | mark :: rest =>
      if !isQuote mark then return false
      match rest with
      | [] => throw .endsEarly
      | second :: rest =>
          if second ≠ mark then return false
          match rest with
          | [] => throw .endsEarly
          | third :: rest =>
              let closed := 3 ≤ rest.length && (rest.reverse.take 3).all (· = mark)
              return third = mark && !closed

/-- A value that goes on, with the end of a line unless it is escaped. -/
def Pending.ofText (key : String) (text : List Char) : Pending :=
  if endsInEscape text then ⟨key, text.dropLast, true⟩ else ⟨key, text ++ ['\n'], false⟩

/-! ## Entering -/

/-- Put a value into a table under a new key. -/
def putNew (key : String) (value : Toml) : Toml → Except Fault Toml
  | .table entries =>
      if (entries.lookup key).isSome then .error .malformed
      else .ok (.table (entries ++ [(key, value)]))
  | _ => .error .malformed

/-- Change the table that a path leads to; tables on the way that are missing are made. -/
def changeWithin {α : Type} (change : Toml → Except Fault (Toml × α)) :
    List String → Toml → Except Fault (Toml × α)
  | [], place => change place
  | key :: path, .table entries => do
      let (value, answer) ←
        changeWithin change path ((Keyed.get? entries key).getD (.table []))
      return (.table (Keyed.put entries key value), answer)
  | _ :: _, _ => .error .wrongKind

/-- Put an entry into a table, given how values are read. A value that goes on is left to be
completed. -/
def addEntry (read : Bool → List Char → Except Fault Toml) (line : List Char) (place : Toml) :
    Except Fault (Toml × Option Pending) := do
  let (keyText, text, strict) ← cutEntry line
  let (path, key) ← readKey keyText
  changeWithin (fun place => do
    if ← goesOn text then
      let _ ← putNew key .absent place
      if key = "" then throw .nameless
      return (place, some (Pending.ofText key text))
    else return (← putNew key (← read strict text) place, none)) path place

end CatalogClient.Toml
