/-!
The calendar: which years have a day more, how long months are, and days numbered from the first
day of the year 1, which was a Monday.
-/

namespace ClickGen.Time

def isLeap (year : Int) : Bool := year % 4 == 0 && (year % 100 != 0 || year % 400 == 0)

def daysIn (year : Int) (month : Nat) : Nat :=
  if month = 2 then if isLeap year then 29 else 28
  else if month = 4 ∨ month = 6 ∨ month = 9 ∨ month = 11 then 30
  else 31

/-- Whether a year has a day. -/
def isDate (year : Int) (month day : Nat) : Bool :=
  1 ≤ month && month ≤ 12 && 1 ≤ day && day ≤ daysIn year month

/-- The number of days before a month of a year. -/
def daysBeforeMonth (year : Int) : Nat → Nat
  | 0 | 1 => 0
  | month + 1 => daysBeforeMonth year month + daysIn year month

/-- The number of days from the beginning of the year 1 to that of a year. -/
def daysBeforeYear (year : Int) : Int :=
  let y := year - 1
  365 * y + y / 4 - y / 100 + y / 400

/-- The number of a day, from the beginning of the year 1. -/
def dayNumber (year : Int) (month day : Nat) : Int :=
  daysBeforeYear year + daysBeforeMonth year month + day - 1

/-- The month, of at most `n` that are left, in which the day `day` from the beginning of `month`
is, and the day of that month. -/
def monthAndDay (year : Int) (month day : Nat) : Nat → Nat × Nat
  | 0 => (month, day + 1)
  | n + 1 =>
    if day < daysIn year month then (month, day + 1)
    else monthAndDay year (month + 1) (day - daysIn year month) n

/-- The year, month and day of a number. Years repeat after 400, which have 146097 days. -/
def ofDayNumber (number : Int) : Int × Nat × Nat :=
  let inCycle := (number % 146097).toNat
  let centuries := min (inCycle / 36524) 3
  let inCentury := inCycle - centuries * 36524
  let fours := inCentury / 1461
  let inFour := inCentury - fours * 1461
  let years := min (inFour / 365) 3
  let year := number / 146097 * 400 + (centuries * 100 + fours * 4 + years : Nat) + 1
  (year, monthAndDay year 1 (inFour - years * 365) 11)

end ClickGen.Time
