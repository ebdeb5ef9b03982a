/-!
# Civil dates

Dates of the Gregorian calendar, extended to all years, as a count of days from 1 January 1970.
Years are counted from March, so that a leap day ends its year; four hundred years make one cycle.

* `Date` is a date, `Date.days` its number;
* `Date.ofDays` is the date with a number;
* `Date.ofYmd?` refuses days that a month does not have.
-/

namespace PanelScript

/-- A date: year, month from 1, day from 1. -/
structure Date where
  year : Int
  month : Nat
  day : Nat
  deriving DecidableEq

namespace Date

/-- Every fourth year is a leap year, but of the centuries only every fourth. -/
def isLeap (year : Int) : Bool := year % 4 = 0 && (year % 100 ≠ 0 || year % 400 = 0)

/-- The number of days of a month. -/
def daysInMonth (year : Int) (month : Nat) : Nat :=
  if month = 2 then if isLeap year then 29 else 28
  else if month = 4 ∨ month = 6 ∨ month = 9 ∨ month = 11 then 30 else 31

/-- A date, if the calendar has it. -/
def ofYmd? (year : Int) (month day : Nat) : Option Date :=
  if 1 ≤ month ∧ month ≤ 12 ∧ 1 ≤ day ∧ day ≤ daysInMonth year month then some ⟨year, month, day⟩
  else none

/-- The days of a cycle of four hundred years. -/
def cycle : Int := 146097

/-- The days from the beginning of the cycles, 1 March of the year 0, to 1 January 1970. -/
def epoch : Int := 719468

/-- The number of the day in its year from March, from zero. -/
def dayOfYear (month day : Nat) : Int :=
  (153 * (((month : Int) + 9) % 12) + 2) / 5 + day - 1

/-- The number of a date: days since 1 January 1970. -/
def days (d : Date) : Int :=
  let year := if d.month ≤ 2 then d.year - 1 else d.year
  let yearOfCycle := year % 400
  let dayOfCycle := yearOfCycle * 365 + yearOfCycle / 4 - yearOfCycle / 100
    + dayOfYear d.month d.day
  year / 400 * cycle + dayOfCycle - epoch

/-- The date with a number. -/
def ofDays (n : Int) : Date :=
  let shifted := n + epoch
  let dayOfCycle := shifted % cycle
  let yearOfCycle :=
    (dayOfCycle - dayOfCycle / 1460 + dayOfCycle / 36524 - dayOfCycle / 146096) / 365
  let dayOfYear := dayOfCycle - (365 * yearOfCycle + yearOfCycle / 4 - yearOfCycle / 100)
  let fromMarch := (5 * dayOfYear + 2) / 153
  let day := dayOfYear - (153 * fromMarch + 2) / 5 + 1
  let month := if fromMarch < 10 then fromMarch + 3 else fromMarch - 9
  let year := yearOfCycle + shifted / cycle * 400
  ⟨if month ≤ 2 then year + 1 else year, month.toNat, day.toNat⟩

/-- The first and the last year that dates are kept for. -/
def minYear : Int := -262143

@[inherit_doc minYear] def maxYear : Int := 262142

end Date

end PanelScript
