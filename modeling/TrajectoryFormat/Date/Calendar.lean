/-!
# The calendar

The Gregorian calendar, extended to all years. Days are counted from the first of January 1970.
-/

namespace TrajectoryFormat.Calendar

def isLeap (year : Int) : Bool := year % 4 = 0 && (year % 100 ≠ 0 || year % 400 = 0)

def daysInMonth (year : Int) (month : Nat) : Nat :=
  match month with
  | 2 => if isLeap year then 29 else 28
  | 4 | 6 | 9 | 11 => 30
  | _ => 31

def daysInYear (year : Int) : Nat := if isLeap year then 366 else 365

/-- The leap years from year 1 up to and including `year`, those before it counted down. -/
def leapsThrough (year : Int) : Int := year / 4 - year / 100 + year / 400

/-- The day number of the first of January. -/
def yearStart (year : Int) : Int :=
  365 * (year - 1970) + leapsThrough (year - 1) - leapsThrough 1969

def daysBefore (year : Int) : Nat → Nat
  | 0 | 1 => 0
  | month + 2 => daysBefore year (month + 1) + daysInMonth year (month + 1)

/-- A day as a year and its number in the year, from 1. -/
structure Day where
  year : Int
  ordinal : Nat
deriving DecidableEq, Repr

/-- The years that dates may lie in. -/
def InRange (year : Int) : Prop := -262143 ≤ year ∧ year ≤ 262142

instance (year : Int) : Decidable (InRange year) := inferInstanceAs (Decidable (_ ∧ _))

namespace Day

/-- The day with this month and day of the month, if there is one. -/
def ofMonth? (year : Int) (month day : Nat) : Option Day :=
  if InRange year ∧ 1 ≤ month ∧ month ≤ 12 ∧ 1 ≤ day ∧ day ≤ daysInMonth year month then
    some ⟨year, daysBefore year month + day⟩
  else none

/-- The day with this number in the year, if there is one. -/
def ofOrdinal? (year : Int) (ordinal : Nat) : Option Day :=
  if InRange year ∧ 1 ≤ ordinal ∧ ordinal ≤ daysInYear year then some ⟨year, ordinal⟩ else none

/-- Days since the first of January 1970. -/
def number (d : Day) : Int := yearStart d.year + d.ordinal - 1

/-- The day of the week, from 0 for Monday. -/
def weekday (d : Day) : Nat := ((d.number + 3) % 7).toNat

/-- The months of the year that begin on or before the day. -/
def month (d : Day) : Nat :=
  ((List.range 12).filter fun m => daysBefore d.year (m + 1) < d.ordinal).length

def dayOfMonth (d : Day) : Nat := d.ordinal - daysBefore d.year d.month

end Day

def DayInRange (number : Int) : Prop := yearStart (-262143) ≤ number ∧ number < yearStart 262143

instance (number : Int) : Decidable (DayInRange number) := inferInstanceAs (Decidable (_ ∧ _))

end TrajectoryFormat.Calendar
