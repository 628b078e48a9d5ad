/-
# Values in settings files

How the text of a value is read: a truth value, a text in quotes, a list, a table within a line, or
a plain value. Lists and tables hold values again, down to a limit: every list takes two levels of
it and every table three.
-/

import CatalogClient.Text.Lines
import CatalogClient.Toml.Entry

namespace CatalogClient.Toml

/-- The items of a list, which are of one shape; blank texts are none. -/
def readItems (read : List Char → Except Fault Toml) (shape? : Option Shape) :
    List (List Char) → Except Fault (List Toml)
  | [] => .ok []
  | text :: rest =>
      if (Text.trim text).isEmpty then readItems read shape? rest
      else do
        let item ← read (Text.trim text)
        if shape?.any (· ≠ item.shape) then throw .malformed
        return item :: (← readItems read (some item.shape) rest)

/-- Whether the text of an entry in a table within a line is complete. Most values show it by their
first and last characters. -/
def isComplete (value : List Char) : Except Fault Bool :=
  match value with
  | [] => .error .endsEarly
  | first :: _ =>
      let last := value.getLast?
      .ok ((isQuote first && last = some first) || first = '-' || Text.isUsualDigit first
        || value = "true".toList || value = "false".toList || (first = '[' && last = some ']')
        || (first = '\x7b' && last = some '\x7d'))

/-- The entries of a table within a line, given the parts between its commas, of which the first may
be the rest of an entry. -/
def cutEntries : List (List Char) → Except Fault (List (List Char))
  | [] => .ok []
  | part :: rest => go part rest
where
  /-- The entries from an entry on that may not be complete yet. -/
  go (part : List Char) (rest : List (List Char)) : Except Fault (List (List Char)) := do
    match Text.cut? '=' part with
    | none => throw .malformed
    | some (_, value) =>
        if ← isComplete (Text.trim value) then
          match rest with
          | [] => return [part]
          | next :: rest => return part :: (← go next rest)
        else
          match rest with
          | [] => throw .malformed
          | next :: rest => go (part ++ ',' :: next) rest
  termination_by structural rest

/-- Put entries into a table, up to the first one that goes on in the next line. -/
def addEntries (read : Bool → List Char → Except Fault Toml) :
    List (List Char) → Toml → Except Fault Toml
  | [], place => .ok place
  | line :: rest, place => do
      let (place, pending) ← addEntry read line place
      if pending.isSome then return place else addEntries read rest place

/-- Put the entries of a table within a line into a table. -/
def addInline (read : Bool → List Char → Except Fault Toml) (text : List Char) (place : Toml) :
    Except Fault Toml := do
  let parts := Text.partsBetween ',' (inner text)
  let isEmpty := parts.length = 1 && (Text.trim (inner text)).isEmpty
  addEntries read (← if isEmpty then .ok [] else cutEntries parts) place

/-- Whether a text is a word in other than small letters. -/
def isMiscased (word : String) (text : List Char) : Bool :=
  text ≠ word.toList && text.map Char.toLower = word.toList

/-- The value that a text stands for, given how many levels are left and whether the value may be a
number. -/
def readValue : Nat → Bool → List Char → Except Fault Toml
  | 0, _, _ => .error .deep
  | room + 1, strict, text =>
      match text with
      | [] => .error .malformed
      | '[' :: _ =>
          match room with
          | 0 => .error .deep
          | room + 1 => do
              let items ← cutItems (Text.trim text)
              return .list (← readItems (readValue room true) none items)
      | '\x7b' :: _ =>
          match room with
          | room + 2 => addInline (readValue room) text (.table [])
          | _ => .error .deep
      | first :: _ =>
          if isQuote first then
            (readQuoted first text).map fun value => .string (String.ofList value)
          else if text = "true".toList then .ok (.truth true)
          else if text = "false".toList then .ok (.truth false)
          else if isMiscased "true" text || isMiscased "false" text then .error .malformed
          else readPlain strict text

end CatalogClient.Toml
