/-
# Dates

The wall clock starts at midnight of the first of January 2021 and counts whole seconds.
`Calendar.stamp` writes such a second as a date and a time of day, in the calendar of common and
leap years that repeats every 400 years.
-/

namespace IcmpEcho.Calendar

/-- The days from the first of March of year 0 to the first of January 2021. -/
def startDay : Int := 738096

/-- The days of 400 years. -/
def eraDays : Int := 146097

/-- Year, month and day of a day counted from the first of March of year 0.  Years are taken to
begin in March, so that the leap day is their last. -/
def civil (day : Int) : Int × Int × Int :=
  let era := day / eraDays
  let dayOfEra := day % eraDays
  let yearOfEra :=
    (dayOfEra - dayOfEra / 1460 + dayOfEra / 36524 - dayOfEra / 146096) / 365
  let dayOfYear := dayOfEra - (365 * yearOfEra + yearOfEra / 4 - yearOfEra / 100)
  let fromMarch := (5 * dayOfYear + 2) / 153
  let month := if fromMarch < 10 then fromMarch + 3 else fromMarch - 9
  let year := yearOfEra + era * 400 + (if month ≤ 2 then 1 else 0)
  (year, month, dayOfYear - (153 * fromMarch + 2) / 5 + 1)

/-- A number with at least two digits. -/
def twoDigits (n : Int) : String := if n < 10 then "0" ++ toString n else toString n

/-- Date and time of day, some seconds after the start of the clock. -/
def stamp (seconds : Int) : String :=
  let (year, month, day) := civil (startDay + seconds / 86400)
  let second := seconds % 86400
  toString year ++ "-" ++ twoDigits month ++ "-" ++ twoDigits day ++ " "
    ++ twoDigits (second / 3600) ++ ":" ++ twoDigits (second / 60 % 60) ++ ":"
    ++ twoDigits (second % 60)

end IcmpEcho.Calendar
