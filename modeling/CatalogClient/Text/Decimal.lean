/-
# Decimal numbers in text

How a number is read from a text: blanks around it, a sign, digits of any script with or without a
point, and an exponent. One underscore may stand between two digits. Numbers without digits are read
as well.
-/

import CatalogClient.Json.Number
import CatalogClient.Text.Integer

namespace CatalogClient.Text

/-- The text of a number in ASCII: digits of any script become the usual ones and blanks become
spaces. Other characters beyond ASCII stand in no number. -/
def asciiNumber? (text : List Char) : Option (List Char) :=
  text.mapM fun c =>
    if c.toNat < 128 then some c
    else if isBlank c then some ' '
    else (digitValue? c).map fun digit => Char.ofNat (48 + digit)

/-- Whether a character is one of the ten usual digits. -/
def isUsualDigit (c : Char) : Bool :=
  '0' ≤ c && c ≤ '9'

/-- The text without the underscores between digits, given whether a digit stands before it. Other
underscores are not allowed. -/
def dropUnderscores? (afterDigit : Bool) : List Char → Option (List Char)
  | [] => some []
  | '_' :: c :: rest =>
      if afterDigit && isUsualDigit c then (dropUnderscores? true rest).map (c :: ·) else none
  | c :: rest =>
      if c = '_' then none else (dropUnderscores? (isUsualDigit c) rest).map (c :: ·)

/-- The number that the ten usual digits stand for. -/
def digitsNumber (digits : List Char) : Nat :=
  digits.foldl (fun value c => 10 * value + (c.toNat - 48)) 0

/-- The exponent that a text stands for; an empty text stands for none. -/
def readExponent? (text : List Char) : Option Int :=
  match text with
  | [] => some 0
  | letter :: rest =>
      if letter = 'e' ∨ letter = 'E' then
        let digits := if rest.head? = some '-' ∨ rest.head? = some '+' then rest.drop 1 else rest
        if digits.isEmpty || !digits.all isUsualDigit then none
        else
          let size : Int := digitsNumber digits
          some (if rest.head? = some '-' then -size else size)
      else none

/-- A number without its sign. -/
def readUnsigned? (negative : Bool) (text : List Char) : Option Number :=
  let word := String.ofList (text.map Char.toLower)
  if word = "inf" ∨ word = "infinity" then some (.infinity negative)
  else if word = "nan" then some .nan
  else
    let whole := text.takeWhile isUsualDigit
    let rest := text.dropWhile isUsualDigit
    let (fraction, rest) :=
      if rest.head? = some '.' then
        ((rest.drop 1).takeWhile isUsualDigit, (rest.drop 1).dropWhile isUsualDigit)
      else ([], rest)
    if whole.isEmpty && fraction.isEmpty then none
    else
      (readExponent? rest).map fun exponent =>
        .ofScaled negative (digitsNumber (whole ++ fraction)) (exponent - fraction.length)

/-- Whether a character of ASCII is blank around a number. -/
def isAsciiBlank (c : Char) : Bool :=
  (decide (9 ≤ c.toNat) && decide (c.toNat ≤ 13)) || c = ' '

/-- The number that a text stands for. -/
def readDecimal? (text : List Char) : Option Number := do
  let ascii ← asciiNumber? text
  let plain ← dropUnderscores? false (trimBy isAsciiBlank ascii)
  match plain with
  | '-' :: rest => readUnsigned? true rest
  | '+' :: rest => readUnsigned? false rest
  | rest => readUnsigned? false rest

end CatalogClient.Text
