import FunctionChurn.Decimal.Integer

/-!
# Times in a log file

Lines of a log file carry the time to the millisecond, as `2024-02-29 12:34:56,789`.

* `dateOfDay` is the date of a day, counted from the first of January 1970.
* `timeStamp` is the text of a time, counted in milliseconds from the beginning of that day.

Years are taken to begin in March, so that the day that is put in stands at the end of one.
-/

namespace FunctionChurn

/-- The days of four hundred years. -/
def daysOfEra : Nat := 146097

/-- The days from the first of March of the year 0 to the first of January 1970. -/
def daysBefore1970 : Nat := 719468

/-- **The date of a day**: year, month, and day of the month. -/
def dateOfDay (days : Nat) : Nat × Nat × Nat :=
  let day := (days + daysBefore1970) % daysOfEra
  let year := (day - day / 1460 + day / 36524 - day / 146096) / 365
  let dayOfYear := day - (365 * year + year / 4 - year / 100)
  let month := (5 * dayOfYear + 2) / 153
  let whole := (days + daysBefore1970) / daysOfEra * 400 + year
  (if month < 10 then whole else whole + 1, if month < 10 then month + 3 else month - 9,
    dayOfYear - (153 * month + 2) / 5 + 1)

example : dateOfDay 0 = (1970, 1, 1) ∧ dateOfDay 19782 = (2024, 2, 29) := by decide

/-- **The text of a time.** -/
def timeStamp (milliseconds : Nat) : String :=
  let seconds := milliseconds / 1000
  let (year, month, day) := dateOfDay (seconds / 86400)
  let two := Integer.padded 2
  Integer.padded 4 year ++ "-" ++ two month ++ "-" ++ two day ++ " " ++ two (seconds / 3600 % 24)
    ++ ":" ++ two (seconds / 60 % 60) ++ ":" ++ two (seconds % 60) ++ ","
    ++ Integer.padded 3 (milliseconds % 1000)

end FunctionChurn
