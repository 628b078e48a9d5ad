/-
# Directions of writing

Every character is written from left to right or from right to left, or takes the direction of those
around it. The tables cover the characters that may stand in the names of hosts.
-/

import CatalogClient.Text.Marks

namespace CatalogClient.Text

/-- How a character takes part in the direction of a text. -/
inductive Direction
  | left
  | right
  | arabic
  | digit
  | arabicDigit
  | mark
  | other
  deriving DecidableEq, Repr

/-- Letters of Hebrew and other scripts that are written from right to left. -/
def rightRanges : CharRanges := [
  (1488, 1524), (1984, 2026), (2036, 2037), (2048, 2069), (2074, 2074), (2084, 2084), (2088, 2088),
  (2112, 2136), (67584, 68096), (68112, 68149), (68192, 68324), (68352, 68850), (69248, 69289),
  (69296, 69415), (69488, 69505), (69552, 69622), (124928, 125124), (125218, 125251),
  (125259, 125273)]

/-- Letters of Arabic and the scripts close to it. -/
def arabicRanges : CharRanges := [
  (1568, 1610), (1646, 1647), (1649, 1749), (1765, 1766), (1774, 1775), (1786, 1808), (1810, 1839),
  (1869, 1957), (1969, 1969), (2144, 2190), (2208, 2249), (65139, 65139), (68864, 68899),
  (69424, 69445)]

/-- Digits that are written from left to right in any text. -/
def digitRanges : CharRanges := [
  (48, 57), (1776, 1785)]

/-- Digits of Arabic. -/
def arabicDigitRanges : CharRanges := [
  (1632, 1641), (68912, 68921)]

/-- Characters that take part in no direction. -/
def neutralRanges : CharRanges := [
  (45, 45), (183, 183), (697, 698), (710, 719), (748, 748), (885, 885), (8204, 8205),
  (11823, 11823), (12539, 12539), (42623, 42623), (42775, 42783), (42888, 42888)]

/-- Marks without room of their own that are written from left to right all the same. -/
def leftMarks : List Nat := [
  3263, 3270, 72199, 72200, 72767]

/-- How a code point takes part in the direction of a text. -/
def directionOf (code : Nat) : Direction :=
  if rightRanges.hasCode code then .right
  else if arabicRanges.hasCode code then .arabic
  else if digitRanges.hasCode code then .digit
  else if arabicDigitRanges.hasCode code then .arabicDigit
  else if neutralRanges.hasCode code then .other
  else if isNonspacingMark code && !leftMarks.contains code then .mark
  else .left

end CatalogClient.Text
