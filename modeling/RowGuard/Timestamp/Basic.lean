/-!
# Dates and times

A `Timestamp` is a date and time of day in UTC, on the Gregorian calendar carried on in both
directions, to the nanosecond. Second 60 stands for a leap second. Shifting by a zone offset of less
than a day moves the date by at most one day (`Timestamp.shift?`).
-/

set_option autoImplicit false

namespace RowGuard

/-- Whether a year has a 29 February. -/
def isLeapYear (year : Int) : Bool := year % 4 == 0 && (year % 100 != 0 || year % 400 == 0)

/-- The number of days in a month. -/
def daysInMonth (year : Int) (month : Nat) : Nat :=
  match month with
  | 2 => if isLeapYear year then 29 else 28
  | 4 | 6 | 9 | 11 => 30
  | _ => 31

/-- The first and the last year of the calendar. -/
def firstYear : Int := -262143

/-- The last year of the calendar. -/
def lastYear : Int := 262142

/-- A day of the calendar. -/
structure Date where
  year : Int
  month : Nat
  day : Nat
  deriving DecidableEq

namespace Date

/-- Whether the day exists. -/
def isValid (d : Date) : Bool :=
  decide (firstYear ≤ d.year ∧ d.year ≤ lastYear ∧ 1 ≤ d.month ∧ d.month ≤ 12 ∧ 1 ≤ d.day ∧
    d.day ≤ daysInMonth d.year d.month)

/-- The day after, unless the calendar ends. -/
def next? (d : Date) : Option Date :=
  if d.day < daysInMonth d.year d.month then some { d with day := d.day + 1 }
  else if d.month < 12 then some ⟨d.year, d.month + 1, 1⟩
  else if d.year < lastYear then some ⟨d.year + 1, 1, 1⟩
  else none

/-- The day before, unless the calendar ends. -/
def previous? (d : Date) : Option Date :=
  if 1 < d.day then some { d with day := d.day - 1 }
  else if 1 < d.month then some ⟨d.year, d.month - 1, daysInMonth d.year (d.month - 1)⟩
  else if firstYear < d.year then some ⟨d.year - 1, 12, 31⟩
  else none

end Date

/-- **A date and time of day** in UTC. -/
structure Timestamp where
  date : Date
  hour : Nat
  minute : Nat
  second : Nat
  nano : Nat
  deriving DecidableEq

/-- **The time that many minutes earlier**, for an offset of less than a day. -/
def Timestamp.shift? (t : Timestamp) (minutes : Int) : Option Timestamp :=
  let total : Int := t.hour * 60 + t.minute - minutes
  let wrapped := (total % 1440).toNat
  let date :=
    if total < 0 then t.date.previous?
    else if 1440 ≤ total then t.date.next?
    else some t.date
  date.map fun date => { t with date, hour := wrapped / 60, minute := wrapped % 60 }

end RowGuard
