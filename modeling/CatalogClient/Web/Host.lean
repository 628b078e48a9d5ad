/-
# Numbers of hosts

A host may be given by its number instead of a name: a short number of four parts from 0 to 255
between points, or a long one of eight groups of hexadecimal digits between colons. One run of
groups that are zero may be left out of a long number, and a short number may stand for its last
two groups.
-/

import CatalogClient.Text.Cut
import CatalogClient.Text.Percent

namespace CatalogClient.Host

/-- Whether a character is one of the ten usual digits. -/
def isDigit (c : Char) : Bool :=
  '0' ≤ c && c ≤ '9'

/-- The number that digits stand for. -/
def digitsValue (digits : List Char) : Nat :=
  digits.foldl (fun value c => 10 * value + (c.toNat - 48)) 0

/-- Whether a text is a part of a short number. Zeros in front are not allowed. -/
def isOctet (text : List Char) : Bool :=
  !text.isEmpty && text.all isDigit && decide (text.length ≤ 3)
    && (decide (text = ['0']) || decide (text.head? ≠ some '0')) && decide (digitsValue text ≤ 255)

/-- Whether a text is a short number. -/
def isShortNumber (text : List Char) : Bool :=
  let parts := Text.partsBetween '.' text
  decide (parts.length = 4) && parts.all isOctet

/-- Whether a text is a group of a long number. -/
def isGroup (text : List Char) : Bool :=
  !text.isEmpty && decide (text.length ≤ 4) && text.all fun c => (Text.hexValue? c).isSome

/-- The groups of a long number in which the short number at its end, if there is one, is written as
two groups. -/
def wholeGroups? (groups : List (List Char)) : Option (List (List Char)) :=
  match groups.getLast? with
  | none => none
  | some last =>
      if last.contains '.' then
        if isShortNumber last then some (groups.dropLast ++ [['0'], ['0']]) else none
      else some groups

/-- The groups on one side of the groups that are left out. -/
def groupsBeside (groups : List (List Char)) : List (List Char) :=
  if groups = [[]] then [] else groups

/-- Whether a text is a long number. -/
def isLongNumber (text : List Char) : Bool :=
  match wholeGroups? (Text.partsBetween ':' text) with
  | none => false
  | some groups =>
      match (groups.drop 1).dropLast.findIdx? List.isEmpty with
      | none => decide (groups.length = 8) && groups.all isGroup
      | some position =>
          let shown := groupsBeside (groups.take (position + 1))
            ++ groupsBeside (groups.drop (position + 2))
          decide (shown.length ≤ 7) && shown.all isGroup

/-- Whether a text is a long number, perhaps with the name of a zone behind a percent sign. -/
def isZonedNumber (text : List Char) : Bool :=
  match Text.cut? '%' text with
  | none => isLongNumber text
  | some (number, zone) => !zone.isEmpty && !zone.contains '%' && isLongNumber number

end CatalogClient.Host
