/-!
Dates of the proleptic Gregorian calendar, with a year zero and years before it.
-/
namespace Wirelog.Time

/-- Whether a year has a 29 February. -/
def isLeapYear (year : Int) : Bool :=
  (year % 4 == 0 && year % 100 != 0) || year % 400 == 0

/-- The number of days in a month counted from 1; zero for anything else. -/
def daysIn (year : Int) : Nat → Nat
  | 1 | 3 | 5 | 7 | 8 | 10 | 12 => 31
  | 4 | 6 | 9 | 11 => 30
  | 2 => if isLeapYear year then 29 else 28
  | _ => 0

/-- A day of the calendar. -/
structure Date where
  /-- The year; the one before year 1 is 0. -/
  year : Int
  /-- The month, from 1. -/
  month : Nat
  /-- The day of the month, from 1. -/
  day : Nat
  /-- The day exists. -/
  exists_day : 1 ≤ day ∧ day ≤ daysIn year month
deriving DecidableEq

namespace Date

/-- The day with these numbers, if the calendar has it. -/
def of? (year : Int) (month day : Nat) : Option Date :=
  if h : 1 ≤ day ∧ day ≤ daysIn year month then some ⟨year, month, day, h⟩ else none

/-- The first day of the usual epoch. -/
def epoch : Date :=
  ⟨1970, 1, 1, by decide⟩

instance : Inhabited Date := ⟨epoch⟩

/-- The day after. -/
def next (d : Date) : Option Date :=
  if d.day < daysIn d.year d.month then of? d.year d.month (d.day + 1)
  else if d.month < 12 then of? d.year (d.month + 1) 1
  else of? (d.year + 1) 1 1

/-- The day before. -/
def previous (d : Date) : Option Date :=
  if 1 < d.day then of? d.year d.month (d.day - 1)
  else if 1 < d.month then of? d.year (d.month - 1) (daysIn d.year (d.month - 1))
  else of? (d.year - 1) 12 31

/-- The day that is a number of days after the epoch. Years are counted from March here, so that a
leap day comes last, in cycles of 400 years or 146097 days. -/
def ofDays (days : Int) : Option Date :=
  let shifted := days + 719468
  let cycle := shifted.fdiv 146097
  let inCycle := (shifted - cycle * 146097).toNat
  let yearOf := (inCycle - inCycle / 1460 + inCycle / 36524 - inCycle / 146096) / 365
  let inYear := inCycle - (365 * yearOf + yearOf / 4 - yearOf / 100)
  let fromMarch := (5 * inYear + 2) / 153
  let day := inYear - (153 * fromMarch + 2) / 5 + 1
  let month := if fromMarch < 10 then fromMarch + 3 else fromMarch - 9
  let year := (yearOf : Int) + cycle * 400 + (if month ≤ 2 then 1 else 0)
  of? year month day

end Date
end Wirelog.Time
