import ClickGen.Text.Basic
import ClickGen.Time.Calendar

/-!
Moments: a date and a time of day somewhere, and how far the clocks there are from universal time.
-/

namespace ClickGen

structure Moment where
  year : Int := 1
  month : Nat := 1
  day : Nat := 1
  hour : Nat := 0
  minute : Nat := 0
  second : Nat := 0
  nanosecond : Nat := 0
  /-- How many minutes the clocks are before those of universal time. -/
  offset : Int := 0
  deriving DecidableEq

namespace Moment

def dayNumber (m : Moment) : Int := Time.dayNumber m.year m.month m.day

/-- The day of the year, from 1 on. -/
def dayOfYear (m : Moment) : Nat := Time.daysBeforeMonth m.year m.month + m.day

/-- The day of the week, where 0 is Sunday. -/
def weekday (m : Moment) : Nat := ((m.dayNumber + 1) % 7).toNat

/-- Seconds since the beginning of 1970. -/
def timestamp (m : Moment) : Int :=
  (m.dayNumber - Time.daysBeforeYear 1970) * 86400 +
    (m.hour * 3600 + m.minute * 60 + m.second : Nat) - m.offset * 60

/-- The moment so many seconds after the beginning of 1970, in a year of at most four digits. -/
def ofTimestamp? (seconds : Int) : Option Moment :=
  let (year, month, day) := Time.ofDayNumber (seconds / 86400 + Time.daysBeforeYear 1970)
  let time := (seconds % 86400).toNat
  if -9999 ≤ year ∧ year ≤ 9999 then
    some { year, month, day,
           hour := time / 3600, minute := time / 60 % 60, second := time % 60 }
  else none

/-- The number of the week in its year, when weeks begin `first` days after Sunday. -/
def weekOfYear (m : Moment) (first : Nat) : Nat :=
  (m.dayOfYear + 6 - (m.weekday + 7 - first) % 7) / 7

/-- The day of the week, where 1 is Monday and 7 is Sunday. -/
def weekdayFromMonday (m : Moment) : Nat := if m.weekday = 0 then 7 else m.weekday

/-- The year that the week of a moment belongs to, and its number there. A week belongs to the year
of its Thursday. -/
def calendarWeek (m : Moment) : Int × Nat :=
  let thursday := m.dayNumber + 4 - m.weekdayFromMonday
  let year := (Time.ofDayNumber thursday).1
  (year, ((thursday - Time.daysBeforeYear year) / 7 + 1).toNat)

def monthNames : List Text :=
  ["January", "February", "March", "April", "May", "June", "July", "August", "September",
    "October", "November", "December"].map String.toList

def weekdayNames : List Text :=
  ["Sunday", "Monday", "Tuesday", "Wednesday", "Thursday", "Friday", "Saturday"].map String.toList

def monthName (m : Moment) : Text := monthNames.getD (m.month - 1) []

def weekdayName (m : Moment) : Text := weekdayNames.getD m.weekday []

/-- The first letters of a name. -/
def short (name : Text) : Text := name.take 3

end Moment

end ClickGen
