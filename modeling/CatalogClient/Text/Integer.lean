/-
# Integers in text

How an integer is read from a text: blanks around it, a sign, and decimal digits of any script, of
which two neighbours may be separated by one underscore. The number of digits has a limit.
-/

import CatalogClient.Text.Blank

namespace CatalogClient.Text

/-- The first digit of every script; the other nine follow it. -/
def zeroDigits : List Nat := [
  48, 1632, 1776, 1984, 2406, 2534, 2662, 2790, 2918, 3046, 3174, 3302, 3430, 3558, 3664, 3792,
  3872, 4160, 4240, 6112, 6160, 6470, 6608, 6784, 6800, 6992, 7088, 7232, 7248, 42528, 43216,
  43264, 43472, 43504, 43600, 44016, 65296, 66720, 68912, 69734, 69872, 69942, 70096, 70384,
  70736, 70864, 71248, 71360, 71472, 71904, 72016, 72784, 73040, 73120, 92768, 92864, 93008,
  120782, 120792, 120802, 120812, 120822, 123200, 123632, 125264, 130032]

/-- The value of a decimal digit. -/
def digitValue? (c : Char) : Option Nat :=
  (zeroDigits.find? fun first => decide (first ≤ c.toNat) && decide (c.toNat ≤ first + 9)).map
    (c.toNat - ·)

/-- The number whose further digits follow the value read so far. An underscore stands only between
two digits. -/
def readDigits (value : Nat) : List Char → Option Nat
  | [] => some value
  | '_' :: c :: rest => (digitValue? c).bind fun digit => readDigits (10 * value + digit) rest
  | c :: rest => (digitValue? c).bind fun digit => readDigits (10 * value + digit) rest

/-- The most digits of an integer. -/
def longestInteger : Nat := 4300

/-- A number that starts with a digit. -/
def readNatural? : List Char → Option Nat
  | [] => none
  | c :: rest =>
      if longestInteger ≤ rest.countP (· ≠ '_') then none
      else (digitValue? c).bind fun digit => readDigits digit rest

/-- The integer that a text stands for. -/
def readInteger? (text : List Char) : Option Int :=
  match trimBy isNumberBlank text with
  | '-' :: digits => (readNatural? digits).map fun value => -(value : Int)
  | '+' :: digits => (readNatural? digits).map fun value => (value : Int)
  | digits => (readNatural? digits).map fun value => (value : Int)

end CatalogClient.Text
