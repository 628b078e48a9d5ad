/-
# Moments of time

A moment is a date, a time of day, or both together with the distance from universal time if it is
known. Only dates and times that exist are moments.
-/

import CatalogClient.Json.Number
import CatalogClient.Text.Decimal

namespace CatalogClient.Toml

/-- A date. -/
structure Date where
  year : Nat
  month : Nat
  day : Nat
  deriving DecidableEq, Repr

/-- A time of day. -/
structure DayTime where
  hour : Nat
  minute : Nat
  second : Nat
  microsecond : Nat := 0
  deriving DecidableEq, Repr

/-- A moment of time. The distance from universal time is in minutes. -/
inductive Moment
  | date (day : Date)
  | time (clock : DayTime)
  | both (day : Date) (clock : DayTime) (offset : Option Int)
  deriving DecidableEq, Repr

/-- How many days a month has. -/
def daysInMonth (year month : Nat) : Nat :=
  if month = 2 then
    if year % 4 = 0 ∧ (year % 100 ≠ 0 ∨ year % 400 = 0) then 29 else 28
  else if month = 4 ∨ month = 6 ∨ month = 9 ∨ month = 11 then 30
  else 31

/-- The date of three numbers, if it exists. -/
def Date.of? (year month day : Int) : Option Date :=
  if 1 ≤ year ∧ year ≤ 9999 ∧ 1 ≤ month ∧ month ≤ 12 ∧ 1 ≤ day
      ∧ day ≤ daysInMonth year.toNat month.toNat then
    some ⟨year.toNat, month.toNat, day.toNat⟩
  else none

/-- The time of four numbers, if it exists. -/
def DayTime.of? (hour minute second microsecond : Int) : Option DayTime :=
  if 0 ≤ hour ∧ hour ≤ 23 ∧ 0 ≤ minute ∧ minute ≤ 59 ∧ 0 ≤ second ∧ second ≤ 59
      ∧ 0 ≤ microsecond ∧ microsecond ≤ 999999 then
    some ⟨hour.toNat, minute.toNat, second.toNat, microsecond.toNat⟩
  else none

/-! ## Writing -/

/-- A number with zeros in front up to a width. -/
def padded (width value : Nat) : List Char :=
  let digits := Nat.toDigits 10 value
  List.replicate (width - digits.length) '0' ++ digits

/-- The text of a date. -/
def Date.print (day : Date) : List Char :=
  padded 4 day.year ++ '-' :: padded 2 day.month ++ '-' :: padded 2 day.day

/-- The text of a time. -/
def DayTime.print (clock : DayTime) : List Char :=
  padded 2 clock.hour ++ ':' :: padded 2 clock.minute ++ ':' :: padded 2 clock.second
    ++ (if clock.microsecond = 0 then [] else '.' :: padded 6 clock.microsecond)

/-- The text of a distance from universal time. -/
def printOffset (offset : Int) : List Char :=
  (if offset < 0 then '-' else '+') :: padded 2 (offset.natAbs / 60)
    ++ ':' :: padded 2 (offset.natAbs % 60)

/-- The text of a moment, with the given mark between date and time and the given text for universal
time. -/
def Moment.printWith (mark : Char) (universal : List Char) : Moment → List Char
  | .date day => day.print
  | .time clock => clock.print
  | .both day clock offset =>
      day.print ++ mark :: clock.print ++
        match offset with
        | none => []
        | some minutes => if minutes = 0 then universal else printOffset minutes

/-- Whether a moment can be shown: its distance from universal time is less than a day. -/
def Moment.isShown : Moment → Bool
  | .both _ _ (some offset) => decide (offset.natAbs < 1440)
  | _ => true

/-- The text of a moment as it is shown. -/
def Moment.text (moment : Moment) : List Char :=
  moment.printWith ' ' (printOffset 0)

/-- The text of a moment in a file. -/
def Moment.print (moment : Moment) : List Char :=
  moment.printWith 'T' ['Z']

/-! ## Reading -/

/-- The number in a part of a text: the length of the part, and how many characters stand before it.
-/
def numberAt? (text : List Char) (start length : Nat) : Option Int :=
  Text.readInteger? ((text.drop start).take length)

/-- The distance from universal time that a text stands for. Any first character but a minus means a
distance ahead. -/
def readOffset? (text : List Char) : Option Int :=
  if text = ['Z'] then some 0
  else do
    let hours ← numberAt? text 1 2
    let minutes ← numberAt? text 4 2
    return if text.head? = some '-' then -(60 * hours + minutes) else 60 * hours + minutes

/-- The whole part of the product of two numbers of double precision, of which the second is the
nearest to a negative power of ten. The first one may be too large to be one. -/
def scaledDown? (value : Int) (power : Nat) : Option Int :=
  let size := Binary.nearest ⟨value.natAbs, 1⟩
  if size.isInfinite then none
  else
    let a := size.toFraction
    let b := (Binary.nearest ⟨1, Nat.pow 10 power⟩).toFraction
    let product : Nat :=
      (Binary.nearest ⟨a.numerator * b.numerator, a.denominator * b.denominator⟩).toFraction.floor
    some (if value < 0 then -product else product)

/-- The millionths of a second that the digits of a fraction stand for; `none` stands for a text
that is no number, and an error for digits beyond all bounds. -/
def readFraction (digits : List Char) : Except Unit (Option Int) :=
  match Text.readInteger? digits with
  | none => .ok none
  | some value =>
      if digits.length ≤ 6 then .ok (some (value * Nat.pow 10 (6 - digits.length)))
      else if value = 0 then .ok (some 0)
      else
        match scaledDown? value (digits.length - 6) with
        | none => .error ()
        | some scaled => .ok (some scaled)

/-- The fraction of a second and the text of the distance from universal time in what follows the
point after a time. -/
def splitFraction (text : List Char) : List Char × Option (List Char) :=
  if text.getLast? = some 'Z' ∨ text.getLast? = some 'z' then (text.dropLast, some ['Z'])
  else
    let mark := if text.contains '+' then '+' else '-'
    if text.contains mark then (text.takeWhile (· ≠ mark), some (text.dropWhile (· ≠ mark)))
    else (text, none)

/-- What follows the seconds of a time: the millionths of a second and the distance from universal
time. A fault in one part makes both count as absent. -/
def readTail (text : List Char) : Except Unit (Int × Option Int) :=
  match text with
  | [] => .ok (0, none)
  | '.' :: rest =>
      let (digits, zone) := splitFraction rest
      let offset := zone.map readOffset?
      if offset = some none then .ok (0, none)
      else do
        match ← readFraction digits with
        | none => return (0, none)
        | some microsecond => return (microsecond, offset.bind id)
  | zone => .ok (0, readOffset? zone)

/-- The date, with or without a time, that a text stands for. Digits beyond all bounds are an error.
-/
def readDate (text : List Char) : Except Unit (Option Moment) := do
  let (microsecond, offset) ← readTail (text.drop 19)
  return do
    if !(text.drop 1).contains '-' then none
    let day ← Date.of? (← numberAt? text 0 4) (← numberAt? text 5 2) (← numberAt? text 8 2)
    if text.length = 10 then return .date day
    else
      let clock ← DayTime.of? (← numberAt? text 11 2) (← numberAt? text 14 2)
        (← numberAt? text 17 2) microsecond
      return .both day clock offset

/-- The numbers of a time of day that a text starts with, and the digits of its fraction: three to
six, if a point and as many follow. -/
def timeNumbers? (text : List Char) : Option (Nat × Nat × Nat × Nat) :=
  match text with
  | a :: b :: ':' :: c :: d :: ':' :: e :: f :: rest =>
      if [a, b, c, d, e, f].all Text.isUsualDigit then
        let fraction :=
          match rest with
          | '.' :: more => (more.take 6).takeWhile Text.isUsualDigit
          | _ => []
        some (Text.digitsNumber [a, b], Text.digitsNumber [c, d], Text.digitsNumber [e, f],
          if fraction.length < 3 then 0 else Text.digitsNumber fraction)
      else none
  | _ => none

end CatalogClient.Toml
