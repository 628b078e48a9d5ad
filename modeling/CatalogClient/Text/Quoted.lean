/-
# Quoted text

A text between quotes as it appears in messages. The quotes are single unless the text holds a
single quote and no double one. The backslash, the quote in use and every character that is not
printable are written as escapes.
-/

import CatalogClient.Text.Printable

namespace CatalogClient.Text

/-- The quote that encloses a text. -/
def quoteMark (text : List Char) : Char :=
  if text.contains '\'' && !text.contains '"' then '"' else '\''

/-- The lower-case hexadecimal digits of a number, padded with zeros to a width. -/
def hexPadded (width value : Nat) : List Char :=
  let digits := Nat.toDigits 16 value
  List.replicate (width - digits.length) '0' ++ digits

/-- The escape of a character that is not printable: as short as its code point allows. -/
def hexEscape (c : Char) : List Char :=
  if c.toNat < 0x100 then '\\' :: 'x' :: hexPadded 2 c.toNat
  else if c.toNat < 0x10000 then '\\' :: 'u' :: hexPadded 4 c.toNat
  else '\\' :: 'U' :: hexPadded 8 c.toNat

/-- How one character is written between the given quotes. -/
def escapeChar (mark c : Char) : List Char :=
  if c = mark ∨ c = '\\' then ['\\', c]
  else if c = '\n' then ['\\', 'n']
  else if c = '\r' then ['\\', 'r']
  else if c = '\t' then ['\\', 't']
  else if isPrintable c then [c]
  else hexEscape c

/-- What stands between the quotes. -/
def quotedBody (text : List Char) : List Char :=
  text.flatMap (escapeChar (quoteMark text))

/-- The text between its quotes. -/
def quote (text : String) : String :=
  let mark := quoteMark text.toList
  String.ofList (mark :: quotedBody text.toList ++ [mark])

/-- A list of quoted texts in square brackets. -/
def quoteAll (texts : List String) : String :=
  "[" ++ ", ".intercalate (texts.map quote) ++ "]"

end CatalogClient.Text
