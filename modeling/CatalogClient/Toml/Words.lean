/-
# Values in words

How a value is shown in a printed line. A text is shown as it is, unless it is part of a list or a
table: there it stands between quotes, and a moment is shown with the name of its kind.
-/

import CatalogClient.Text.Quoted
import CatalogClient.Toml.Basic

namespace CatalogClient.Toml

/-- A number as it is shown. -/
def showNumber : Number → String
  | .infinity negative => if negative then "-inf" else "inf"
  | .nan => "nan"
  | other => other.print

/-- The numbers of a time, without the seconds and their fraction where they are zero. -/
def DayTime.numbers (clock : DayTime) : List Nat :=
  [clock.hour, clock.minute] ++
    if clock.microsecond ≠ 0 then [clock.second, clock.microsecond]
    else if clock.second ≠ 0 then [clock.second]
    else []

/-- A moment as part of a list or a table. -/
def Moment.describe : Moment → String
  | .date day => "datetime.date(" ++ list [day.year, day.month, day.day] ++ ")"
  | .time clock => "datetime.time(" ++ list clock.numbers ++ ")"
  | .both day clock _ =>
      "datetime.datetime(" ++ list ([day.year, day.month, day.day] ++ clock.numbers) ++ ")"
where
  /-- Numbers with commas between them. -/
  list (numbers : List Nat) : String := ", ".intercalate (numbers.map toString)

mutual

/-- A value as part of a list or a table. -/
def describe : Toml → String
  | .string value => Text.quote value
  | .number value => showNumber value
  | .truth value => if value then "True" else "False"
  | .moment value => value.describe
  | .list items => "[" ++ ", ".intercalate (describeItems items) ++ "]"
  | .table entries => "\x7b" ++ ", ".intercalate (describeEntries entries) ++ "\x7d"
  | .absent => "None"

/-- The items of a list in words. -/
def describeItems : List Toml → List String
  | [] => []
  | item :: rest => item.describe :: describeItems rest

/-- The entries of a table in words. -/
def describeEntries : List (String × Toml) → List String
  | [] => []
  | (key, value) :: rest => (Text.quote key ++ ": " ++ value.describe) :: describeEntries rest

end

/-- A value by itself. -/
def shown : Toml → String
  | .string value => value
  | .moment value => String.ofList value.text
  | other => other.describe

end CatalogClient.Toml
