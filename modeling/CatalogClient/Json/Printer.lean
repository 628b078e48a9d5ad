/-
# Writing documents

The text of a document on one line.
-/

import CatalogClient.Json.Basic
import CatalogClient.Text.Quoted

namespace CatalogClient.Json

/-- How one character is written in a text. -/
def printChar (c : Char) : List Char :=
  if c = '"' then ['\\', '"']
  else if c = '\\' then ['\\', '\\']
  else if c.toNat < 32 then '\\' :: 'u' :: Text.hexPadded 4 c.toNat
  else [c]

/-- A text in double quotes. -/
def printString (text : String) : String :=
  "\"" ++ String.ofList (text.toList.flatMap printChar) ++ "\""

mutual

/-- The text of a value. -/
def print : Json → String
  | .null => "null"
  | .bool true => "true"
  | .bool false => "false"
  | .number value => value.print
  | .string value => printString value
  | .array items => "[" ++ ", ".intercalate (printItems items) ++ "]"
  | .object members => "\x7b" ++ ", ".intercalate (printMembers members) ++ "\x7d"

/-- The texts of the items of a list. -/
def printItems : List Json → List String
  | [] => []
  | item :: rest => print item :: printItems rest

/-- The texts of the members of an object. -/
def printMembers : List (String × Json) → List String
  | [] => []
  | (name, value) :: rest => (printString name ++ ": " ++ print value) :: printMembers rest

end

end CatalogClient.Json
