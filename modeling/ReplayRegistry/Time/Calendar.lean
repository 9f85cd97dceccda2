/-!
# The proleptic Gregorian calendar

Days are numbered from the first of January of the year 1, which is day 0. The calendar repeats
every 400 years, that is every 146097 days.
-/

namespace ReplayRegistry.Time

/-- A calendar date. -/
structure Date where
  /-- The year; the year before 1 is 0. -/
  year : Int
  /-- The month, from 1. -/
  month : Nat
  /-- The day of the month, from 1. -/
  day : Nat
deriving DecidableEq, Repr

/-- Whether a year has 366 days. -/
def isLeapYear (year : Int) : Bool := year % 4 == 0 && (year % 100 != 0 || year % 400 == 0)

def monthLengths (leap : Bool) : List Nat :=
  [31, if leap then 29 else 28, 31, 30, 31, 30, 31, 31, 30, 31, 30, 31]

/-- The days of the first `years` years of a 400-year cycle. -/
def cycleDays (years : Nat) : Nat := 365 * years + years / 4 - years / 100 + years / 400

/-- The number of the first day of a year. -/
def yearStart (year : Int) : Int :=
  (year - 1) / 400 * 146097 + cycleDays ((year - 1) % 400).toNat

/-- Whether a date exists. -/
def Date.exists (d : Date) : Bool :=
  1 ≤ d.month && 1 ≤ d.day && d.day ≤ (monthLengths (isLeapYear d.year)).getD (d.month - 1) 0

/-- The number of a day. -/
def Date.toDay (d : Date) : Int :=
  let earlier : Nat := ((monthLengths (isLeapYear d.year)).take (d.month - 1)).foldl Nat.add 0
  yearStart d.year + earlier + d.day - 1

/-- The year of a cycle, from 0, that a day of the cycle falls into. -/
def yearOfCycle (day : Nat) : Nat :=
  let y := day / 366
  if cycleDays (y + 1) ≤ day then y + 1 else y

/-- Count off whole months, given with their lengths, from a number of days. The result is the
number of months counted off and the days left. -/
def countMonths : List Nat → Nat → Nat × Nat
  | [], day => (0, day)
  | m :: ms, day =>
    if day < m then (0, day)
    else
      let (k, r) := countMonths ms (day - m)
      (k + 1, r)

/-- The date of a day. -/
def Date.ofDay (n : Int) : Date :=
  let day := (n % 146097).toNat
  let y := yearOfCycle day
  let year := n / 146097 * 400 + y + 1
  let (m, d) := countMonths (monthLengths (isLeapYear year)) (day - cycleDays y)
  ⟨year, m + 1, d + 1⟩

end ReplayRegistry.Time
