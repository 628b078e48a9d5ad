/-
# Plain values of settings files

A value without quotes and brackets is a time, a date or a number. Underscores in a number do not
count, but neither they nor zeros may stand at certain places of the text that follows the equals
sign.
-/

import CatalogClient.Text.Cut
import CatalogClient.Text.Percent
import CatalogClient.Toml.Basic

namespace CatalogClient.Toml

/-- Whether two characters follow each other somewhere in a text. -/
def hasPair (first second : Char) : List Char → Bool
  | a :: b :: rest => (a = first && b = second) || hasPair first second (b :: rest)
  | _ => false

/-- The text without the sign in front of it. -/
def withoutSign (text : List Char) : List Char :=
  match text with
  | '-' :: rest => rest
  | '+' :: rest => rest
  | rest => rest

/-- Whether the zeros and underscores of a number stand where they may. -/
def isStrict (text : List Char) : Bool :=
  let text := Text.trim text
  let number := withoutSign text
  let zerosFit :=
    if text.head? = some '0' then number[1]?.any (['.', 'o', 'b', 'x'].contains ·)
    else number.head? ≠ some '0' || number[1]?.all (· = '.')
  !text.isEmpty && text.head? ≠ some '_' && text.getLast? ≠ some '_' && !hasPair '_' '.' text
    && !hasPair '.' '_' text && (text.length = 1 || (zerosFit && !hasPair '_' '_' number))

/-- The number that digits of a base stand for. -/
def digitsOf? (base : Nat) (digits : List Char) : Option Nat :=
  if digits.isEmpty then none
  else
    digits.foldlM (fun value c =>
      (Text.hexValue? c).bind fun digit =>
        if digit < base then some (base * value + digit) else none) 0

/-- The number that decimal digits stand for, unless there are too many. -/
def decimalOf? (digits : List Char) : Option Nat :=
  if Text.longestInteger < digits.length then none else digitsOf? 10 digits

/-- An integer without its sign: decimal without zeros in front, or of the base that its first two
characters name. -/
def readNatural? (text : List Char) : Option Nat :=
  match text with
  | '0' :: letter :: digits =>
      if letter = 'x' ∨ letter = 'X' then digitsOf? 16 digits
      else if letter = 'o' ∨ letter = 'O' then digitsOf? 8 digits
      else if letter = 'b' ∨ letter = 'B' then digitsOf? 2 digits
      else (decimalOf? text).filter (· = 0)
  | _ => decimalOf? text

/-- The integer that a text stands for; blanks around it do not count. -/
def readInteger? (text : List Char) : Option Int := do
  let ascii ← Text.asciiNumber? text
  match Text.trimBy Text.isAsciiBlank ascii with
  | '-' :: digits => (readNatural? digits).map fun value => -(value : Int)
  | digits => (readNatural? (withoutSign digits)).map fun value => (value : Int)

/-- A number subtracted from zero. -/
def negated : Number → Number
  | .integer value => .integer (-value)
  | .decimal negative digits exponent => .decimal (!negative && digits != 0) digits exponent
  | .infinity negative => .infinity !negative
  | .nan => .nan

/-- A number without its minus sign. A point or an exponent makes it a number with a fraction, which
starts with a digit and has something behind its point. -/
def readUnsigned? (text : List Char) : Option Number :=
  let word := String.ofList (text.map Char.toLower)
  let hasExponent := !text.contains 'x' && (text.contains 'e' || text.contains 'E')
  if text.contains '.' || hasExponent then
    if (Text.cut? '.' text).any (·.2.isEmpty) || !(text.head?.any Text.isUsualDigit) then none
    else Text.readDecimal? text
  else if word = "inf" then some (.infinity false)
  else if word = "nan" then some .nan
  else (readInteger? text).map .integer

/-- The number that a text stands for. -/
def readNumber? (text : List Char) : Option Number :=
  let digits := (withoutSign text).filter (· ≠ '_')
  if text.head? = some '-' then (readUnsigned? digits).map negated else readUnsigned? digits

/-- A date as a value of a settings file. -/
def readMoment (text : List Char) : Except Fault (Option Moment) :=
  (readDate text).mapError fun _ => .beyondBounds

/-- The value of a text without quotes and brackets, given whether it may be a number. -/
def readPlain (isStrict : Bool) (text : List Char) : Except Fault Toml :=
  match timeNumbers? text with
  | some (hour, minute, second, microsecond) =>
      match DayTime.of? hour minute second microsecond with
      | some clock => .ok (.moment (.time clock))
      | none => .error .malformed
  | none => do
      match ← readMoment text with
      | some found => return .moment found
      | none =>
          if !isStrict then throw .malformed
          match readNumber? text with
          | some value => return .number value
          | none => throw .malformed

end CatalogClient.Toml
