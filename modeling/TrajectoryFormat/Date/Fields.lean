import TrajectoryFormat.Date.Calendar
import TrajectoryFormat.Text

/-!
# Fields of a date

The fields read from a date value, and the instant they denote. A field that is read twice must have
the same value both times, and fields that say the same thing must agree.
-/

namespace TrajectoryFormat

/-- Why a value is not a date of its pattern. -/
inductive DateFault where
  | invalid
  | tooShort
  | trailing
  | outOfRange
  | impossible
  | notEnough
deriving DecidableEq, Repr

def DateFault.message : DateFault → Text
  | invalid => "input contains invalid characters"
  | tooShort => "premature end of input"
  | trailing => "trailing input"
  | outOfRange => "input is out of range"
  | impossible => "no possible date and time matching input"
  | notEnough => "input is not enough for unique date and time"

/-- The fields of a date value, as far as they have been read. -/
structure DateFields where
  year : Option Int := none
  yearOfCentury : Option Nat := none
  month : Option Nat := none
  day : Option Nat := none
  dayOfYear : Option Nat := none
  weekday : Option Nat := none
  afternoon : Option Bool := none
  hourOfHalfDay : Option Nat := none
  minute : Option Nat := none
  second : Option Nat := none
  nanosecond : Option Nat := none
  offset : Option Int := none

namespace DateFields

def agree [DecidableEq α] (old : Option α) (new : α) : Except DateFault (Option α) :=
  match old with
  | none => .ok (some new)
  | some old => if old = new then .ok (some new) else .error .impossible

def within (low high n : Nat) : Except DateFault Nat :=
  if low ≤ n ∧ n ≤ high then .ok n else .error .outOfRange

/-- The year that the fields give. Two digits alone are years from 1970 to 2069. -/
def givenYear (f : DateFields) : Except DateFault (Option Int) :=
  match f.year, f.yearOfCentury with
  | year, none => .ok year
  | some year, some short =>
    if year < 0 ∨ year % 100 ≠ short then .error .impossible else .ok (some year)
  | none, some short => .ok (some (if short < 70 then 2000 + short else 1900 + short))

def allows [DecidableEq α] (given : Option α) (value : α) : Bool :=
  given.all (· = value)

/-- The day that the fields give: by month and day of the month, else by its number in the year.
Every other field must agree with it. -/
def day? (f : DateFields) : Except DateFault Calendar.Day := do
  let year ← f.givenYear
  let (found, agrees) ← match year, f.month, f.day, f.dayOfYear with
    | some year, some month, some day, _ =>
      match Calendar.Day.ofMonth? year month day with
      | some found => pure (found, allows f.dayOfYear found.ordinal)
      | none => throw .outOfRange
    | some year, _, _, some ordinal =>
      match Calendar.Day.ofOrdinal? year ordinal with
      | some found => pure (found, allows f.month found.month && allows f.day found.dayOfMonth)
      | none => throw .outOfRange
    | _, _, _, _ => throw .notEnough
  if agrees && allows f.weekday found.weekday then pure found else throw .impossible

/-- A time of day: the second of the day, and the milliseconds past it. -/
structure TimeOfDay where
  second : Nat
  millisecond : Nat
deriving DecidableEq, Repr

def need (field : Option α) : Except DateFault α :=
  match field with
  | some value => .ok value
  | none => .error .notEnough

/-- The time of day that the fields give. Second 60 is one second past second 59. -/
def timeOfDay? (f : DateFields) : Except DateFault TimeOfDay := do
  let afternoon ← need f.afternoon
  let hour ← need f.hourOfHalfDay
  let minute ← need f.minute
  if f.nanosecond.isSome && f.second.isNone then throw .notEnough
  let second := f.second.getD 0
  let whole := ((if afternoon then 12 + hour else hour) * 60 + minute) * 60 + min second 59
  pure ⟨whole, (second - 59) * 1000 + f.nanosecond.getD 0 / 1000000⟩

def daySeconds : Nat := 24 * 60 * 60

/-- A day and a time of day in milliseconds since 1970, universal time being `offset` seconds
behind. -/
def instant (day : Calendar.Day) (time : TimeOfDay) (offset : Int) : Int :=
  (day.number * daySeconds + time.second - offset) * 1000 + time.millisecond

/-- Midnight of the day that the fields give, in milliseconds since 1970. -/
def midnight? (f : DateFields) : Except DateFault Int := do
  let day ← f.day?
  pure (instant day ⟨0, 0⟩ 0)

/-- The instant that day and time of day give, in milliseconds since 1970. -/
def localTime? (f : DateFields) : Except DateFault Int := do
  let day ← f.day?
  let time ← f.timeOfDay?
  pure (instant day time 0)

/-- The instant that day, time of day and distance from universal time give. -/
def zonedTime? (f : DateFields) : Except DateFault Int := do
  let offset ← need f.offset
  let day ← f.day?
  let time ← f.timeOfDay?
  if daySeconds ≤ offset.natAbs then throw .outOfRange
  let universalDay := (day.number * daySeconds + time.second - offset) / daySeconds
  unless Calendar.DayInRange universalDay do throw .impossible
  pure (instant day time offset)

end DateFields

end TrajectoryFormat
