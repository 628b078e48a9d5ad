/-
# Numbers in documents

An integer is kept exactly. A number with a fraction or an exponent counts as the nearest binary
number of double precision and is kept as the shortest decimal that leads back to that number: its
digits, of which the last is no zero, scaled by a power of ten.
-/

namespace CatalogClient

/-- A number of a document. -/
inductive Number
  | integer (value : Int)
  | decimal (negative : Bool) (digits : Nat) (exponent : Int)
  | infinity (negative : Bool)
  | nan
  deriving DecidableEq, Repr

/-- A fraction of two whole numbers. -/
structure Fraction where
  numerator : Nat
  denominator : Nat
  deriving DecidableEq, Repr

namespace Fraction

/-- The fraction of digits scaled by a power of ten. -/
def ofScaled (digits : Nat) (exponent : Int) : Fraction :=
  if 0 ≤ exponent then ⟨digits * Nat.pow 10 exponent.toNat, 1⟩
  else ⟨digits, Nat.pow 10 (-exponent).toNat⟩

/-- The fraction measured in units of a power of ten. -/
def inUnits (value : Fraction) (exponent : Int) : Fraction :=
  if 0 ≤ exponent then ⟨value.numerator, value.denominator * Nat.pow 10 exponent.toNat⟩
  else ⟨value.numerator * Nat.pow 10 (-exponent).toNat, value.denominator⟩

/-- The whole part of a fraction. -/
def floor (value : Fraction) : Nat :=
  value.numerator / value.denominator

/-- The fraction rounded to the nearest whole number, a half to the even neighbour. -/
def round (value : Fraction) : Nat :=
  let twice := 2 * (value.numerator % value.denominator)
  if twice < value.denominator then value.floor
  else if value.denominator < twice then value.floor + 1
  else value.floor + value.floor % 2

end Fraction

/-- A number of double precision without its sign: a whole number scaled by a power of two. -/
structure Binary where
  mantissa : Nat
  scale : Int
  deriving DecidableEq, Repr

namespace Binary

/-- The power of two that a fraction is measured in at double precision: it leaves 53 binary digits,
and fewer below the smallest normal number. -/
def scaleOf (value : Fraction) : Int :=
  let guess := (value.numerator.log2 : Int) - value.denominator.log2 - 53
  let scaled :=
    if 0 ≤ guess then value.numerator / (value.denominator * Nat.pow 2 guess.toNat)
    else value.numerator * Nat.pow 2 (-guess).toNat / value.denominator
  max (if Nat.pow 2 53 ≤ scaled then guess + 1 else guess) (-1074)

/-- The double that is nearest to a fraction. -/
def nearest (value : Fraction) : Binary :=
  let scale := scaleOf value
  let mantissa :=
    if 0 ≤ scale then
      Fraction.round ⟨value.numerator, value.denominator * Nat.pow 2 scale.toNat⟩
    else Fraction.round ⟨value.numerator * Nat.pow 2 (-scale).toNat, value.denominator⟩
  if mantissa = Nat.pow 2 53 then ⟨Nat.pow 2 52, scale + 1⟩ else ⟨mantissa, scale⟩

/-- The exact value of a double. -/
def toFraction (value : Binary) : Fraction :=
  if 0 ≤ value.scale then ⟨value.mantissa * Nat.pow 2 value.scale.toNat, 1⟩
  else ⟨value.mantissa, Nat.pow 2 (-value.scale).toNat⟩

/-- Whether a double is too large for its precision. -/
def isInfinite (value : Binary) : Bool :=
  decide (971 < value.scale)

/-- The digits in units of a power of ten that lead back to a double, the nearest ones if several
do. -/
def digitsAt? (value : Binary) (exponent : Int) : Option Nat :=
  let units := value.toFraction.inUnits exponent
  let leads (digits : Nat) : Bool :=
    decide (digits ≠ 0) && decide (nearest (.ofScaled digits exponent) = value)
  let low := units.floor
  let near := units.round
  let far := if near = low then low + 1 else low
  if leads near then some near else if leads far then some far else none

/-- The shortest digits that lead back to a double, tried in units of falling powers of ten. -/
def shortestFrom (value : Binary) (exponent : Int) : Nat → Nat × Int
  | 0 => ((value.toFraction.inUnits exponent).round, exponent)
  | tries + 1 =>
      match value.digitsAt? exponent with
      | some digits => (digits, exponent)
      | none => shortestFrom value (exponent - 1) tries

/-- The shortest decimal that leads back to a double that is not zero: its digits and the power of
ten that scales them. Seventeen digits are always enough. -/
def shortest (value : Binary) : Nat × Int :=
  shortestFrom value ((((value.mantissa.log2 : Int) + value.scale + 1) * 30103) / 100000 + 1) 20

end Binary

namespace Number

/-- The number for digits scaled by a power of ten. -/
def ofScaled (negative : Bool) (digits : Nat) (exponent : Int) : Number :=
  let order := ((Nat.toDigits 10 digits).length : Int) + exponent
  if digits = 0 ∨ order < -330 then .decimal negative 0 0
  else if 310 < order then .infinity negative
  else
    let value := Binary.nearest (.ofScaled digits exponent)
    if value.mantissa = 0 then .decimal negative 0 0
    else if value.isInfinite then .infinity negative
    else
      let (digits, exponent) := value.shortest
      .decimal negative digits exponent

/-- What a number says as a truth value: zero and one are values, other whole numbers of 64 bits are
none, and any other number is not even of the right kind. -/
inductive Truth
  | value (truth : Bool)
  | otherWhole
  | notWhole
  deriving DecidableEq, Repr

/-- What a whole number says as a truth value. -/
def truthOfInt (value : Int) : Truth :=
  if value = 0 then .value false
  else if value = 1 then .value true
  else if -0x8000000000000000 ≤ value ∧ value < 0x8000000000000000 then .otherWhole
  else .notWhole

/-- The truth value of a number. -/
def truth : Number → Truth
  | .integer value => truthOfInt value
  | .decimal negative digits exponent =>
      if exponent < 0 then .notWhole
      else
        let size : Int := digits * Nat.pow 10 exponent.toNat
        truthOfInt (if negative then -size else size)
  | .infinity _ => .notWhole
  | .nan => .notWhole

/-- Whether a number is zero. -/
def isZero : Number → Bool
  | .integer value => decide (value = 0)
  | .decimal _ digits _ => decide (digits = 0)
  | _ => false

/-- A decimal in the form without an exponent, given how many of its digits stand before the
point. -/
def printPositional (digits : List Char) (point : Int) : List Char :=
  if point ≤ 0 then '0' :: '.' :: List.replicate (-point).toNat '0' ++ digits
  else if digits.length ≤ point.toNat then
    digits ++ List.replicate (point.toNat - digits.length) '0' ++ ['.', '0']
  else digits.take point.toNat ++ '.' :: digits.drop point.toNat

/-- A decimal in the form with one digit before the point and an exponent of at least the given
width. -/
def printScaled (width : Nat) (digits : List Char) (exponent : Int) : List Char :=
  let fraction := if digits.length ≤ 1 then [] else '.' :: digits.drop 1
  let size := Nat.toDigits 10 exponent.natAbs
  digits.take 1 ++ fraction ++ 'e' :: (if exponent < 0 then '-' else '+')
    :: List.replicate (width - size.length) '0' ++ size

/-- A decimal: from a ten-thousandth up to below ten to the sixteenth it is written without an
exponent. -/
def printDecimal (width digits : Nat) (exponent : Int) : List Char :=
  if digits = 0 then ['0', '.', '0']
  else
    let digits := Nat.toDigits 10 digits
    let point := digits.length + exponent
    if -4 < point ∧ point ≤ 16 then printPositional digits point
    else printScaled width digits (point - 1)

/-- The text of a number, in which an exponent has at least two digits. -/
def print : Number → String
  | .integer value => toString value
  | .decimal negative digits exponent =>
      (if negative then "-" else "") ++ String.ofList (printDecimal 2 digits exponent)
  | .infinity negative => if negative then "-Infinity" else "Infinity"
  | .nan => "NaN"

end Number

end CatalogClient
