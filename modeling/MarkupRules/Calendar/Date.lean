/-!
Days and instants of the Gregorian calendar, extended backwards before its introduction.
-/
namespace MarkupRules.Calendar

/-- The years that can be represented. -/
def inYearRange (year : Int) : Bool := decide (-262143 ≤ year) && decide (year ≤ 262142)

/-- Every fourth year is a leap year, but of the full centuries only every fourth. -/
def isLeapYear (year : Int) : Bool := year % 4 == 0 && (year % 100 != 0 || year % 400 == 0)

/-- The number of days of a month; a month that does not exist has none. -/
def daysInMonth (year : Int) (month : Nat) : Nat :=
  match month with
  | 1 | 3 | 5 | 7 | 8 | 10 | 12 => 31
  | 4 | 6 | 9 | 11 => 30
  | 2 => if isLeapYear year then 29 else 28
  | _ => 0

/-- Whether a day with this number is in the calendar. -/
def dayExists (year : Int) (month day : Nat) : Bool :=
  inYearRange year && decide (1 ≤ day) && decide (day ≤ daysInMonth year month)

/-- The number of days before a day, counted from the first day of the year 1, a Monday. -/
def dayNumber (year : Int) (month day : Nat) : Int :=
  let y := year - 1
  let months := (List.range (month - 1)).foldl (fun days m => days + daysInMonth year (m + 1)) 0
  365 * y + y / 4 - y / 100 + y / 400 + months + (day : Int) - 1

/-- The day of the week, from 0 for Monday to 6 for Sunday. -/
def weekday (year : Int) (month day : Nat) : Nat := (dayNumber year month day % 7).toNat

/-- A day and a time on the clock, as a text gives them; they need not exist. -/
structure Moment where
  year : Int := 0
  month : Nat := 0
  day : Nat := 0
  hour : Nat := 0
  minute : Nat := 0
  second : Nat := 0
  deriving Repr, DecidableEq

/-- Whether the day is in the calendar and the clock can show the time. The second 60 is there
for leap seconds. -/
def Moment.exists (m : Moment) : Bool :=
  dayExists m.year m.month m.day && decide (m.hour ≤ 23) && decide (m.minute ≤ 59) &&
    decide (m.second ≤ 60)

/-- The seconds of a moment since the first day of the year 1; a leap second counts as the one
before it. -/
def Moment.seconds (m : Moment) : Int :=
  dayNumber m.year m.month m.day * 86400 + m.hour * 3600 + m.minute * 60 + min m.second 59

/-- Whether the instant at which clocks `offset` seconds ahead show `m` is one that can be
represented. -/
def Moment.existsAt (m : Moment) (offset : Int) : Bool :=
  m.exists && decide (m.seconds - offset < (dayNumber 262142 12 31 + 1) * 86400)

end MarkupRules.Calendar
