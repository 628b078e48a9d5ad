/-
# Blank characters

The characters that are removed around a summary and around the digits of a number.
-/

import CatalogClient.Text.CharRange

namespace CatalogClient.Text

/-- The blank characters. -/
def blankRanges : CharRanges := [
  (9, 13), (28, 32), (133, 133), (160, 160), (5760, 5760), (8192, 8202), (8232, 8233), (8239, 8239),
  (8287, 8287), (12288, 12288)]

/-- Whether a character is blank. -/
def isBlank (c : Char) : Bool :=
  blankRanges.contains c

/-- Whether a character may stand around the digits of a number: a blank that is none of the four
separators of files, groups, records and units. -/
def isNumberBlank (c : Char) : Bool :=
  isBlank c && !(decide (28 ≤ c.toNat) && decide (c.toNat ≤ 31))

/-- The text without the characters of a class at both ends. -/
def trimBy (isOuter : Char → Bool) (text : List Char) : List Char :=
  ((text.dropWhile isOuter).reverse.dropWhile isOuter).reverse

/-- The text without the blanks at both ends. -/
def trim (text : List Char) : List Char :=
  trimBy isBlank text

end CatalogClient.Text
