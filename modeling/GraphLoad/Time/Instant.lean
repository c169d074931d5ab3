import GraphLoad.Text.Digits

/-!
Points in time, counted in seconds from the start of 1970 in UTC. A leap second is the second before
it with a billion nanoseconds or more. Dates are those of the Gregorian calendar, extended both
ways.
-/

namespace GraphLoad

structure Date where
  year : Int
  month : Nat
  day : Nat
deriving DecidableEq, Repr

namespace Date

/-- The years in which a date may lie. -/
def yearInRange (year : Int) : Bool :=
  -262143 ≤ year && year ≤ 262142

def isLeapYear (year : Int) : Bool :=
  year % 4 == 0 && (year % 100 != 0 || year % 400 == 0)

def daysInMonth (year : Int) (month : Nat) : Nat :=
  if month = 2 then (if isLeapYear year then 29 else 28)
  else if month = 4 ∨ month = 6 ∨ month = 9 ∨ month = 11 then 30 else 31

def isValid (d : Date) : Bool :=
  yearInRange d.year && 1 ≤ d.month && d.month ≤ 12 && 1 ≤ d.day &&
    d.day ≤ daysInMonth d.year d.month

/-- The number of days from 1970-01-01. Years start in March here, so that the leap day is the last
of its year; a cycle of 400 years has 146097 days. -/
def toDays (d : Date) : Int :=
  let year := if d.month ≤ 2 then d.year - 1 else d.year
  let cycle := Int.fdiv year 400
  let ofCycle := year - cycle * 400
  let monthFromMarch : Int := if d.month ≤ 2 then d.month + 9 else (d.month : Int) - 3
  let ofYear := Int.fdiv (153 * monthFromMarch + 2) 5 + d.day - 1
  cycle * 146097 + ofCycle * 365 + Int.fdiv ofCycle 4 - Int.fdiv ofCycle 100 + ofYear - 719468

def ofDays (days : Int) : Date :=
  let shifted := days + 719468
  let cycle := Int.fdiv shifted 146097
  let ofCycle := (shifted - cycle * 146097).toNat
  let yearOfCycle := (ofCycle - ofCycle / 1460 + ofCycle / 36524 - ofCycle / 146096) / 365
  let ofYear := ofCycle - (365 * yearOfCycle + yearOfCycle / 4 - yearOfCycle / 100)
  let monthFromMarch := (5 * ofYear + 2) / 153
  let month := if monthFromMarch < 10 then monthFromMarch + 3 else monthFromMarch - 9
  { year := yearOfCycle + cycle * 400 + (if month ≤ 2 then 1 else 0)
    month
    day := ofYear - (153 * monthFromMarch + 2) / 5 + 1 }

end Date

structure Instant where
  seconds : Int
  nanoseconds : Nat
deriving DecidableEq, Repr

namespace Instant

def billion : Nat := 1000000000

def days (t : Instant) : Int :=
  Int.fdiv t.seconds 86400

def secondsOfDay (t : Instant) : Nat :=
  (t.seconds - t.days * 86400).toNat

def date (t : Instant) : Date :=
  .ofDays t.days

def inRange (t : Instant) : Bool :=
  Date.yearInRange t.date.year

/-- The nanoseconds from one point to a later one. A leap second between two times of day counts,
as one does in which the earlier time of day lies. -/
def nanosecondsSince (t start : Instant) : Int :=
  let leap : Int :=
    if start.secondsOfDay < t.secondsOfDay ∧ billion ≤ start.nanoseconds then 1
    else if t.secondsOfDay < start.secondsOfDay ∧ billion ≤ t.nanoseconds then -1
    else 0
  (t.seconds - start.seconds + leap) * billion + ((t.nanoseconds : Int) - start.nanoseconds)

/-- The whole milliseconds from one point to another, cut off toward zero. -/
def millisecondsSince (t start : Instant) : Int :=
  Int.tdiv (t.nanosecondsSince start) 1000000

/-- The point a number of seconds later, unless it lies beyond the range of dates. Only by zero
seconds a leap second stays one. -/
def addSeconds? (t : Instant) (seconds : Nat) : Option Instant :=
  let nanoseconds :=
    if 0 < seconds ∧ billion ≤ t.nanoseconds then t.nanoseconds - billion else t.nanoseconds
  let later : Instant := ⟨t.seconds + seconds, nanoseconds⟩
  if later.inRange then some later else none

end Instant
end GraphLoad
