import Mathlib.Algebra.Order.Ring.Int
import TrajectoryFormat.Date.Calendar

/-!
# Days counted

The dates of the calendar follow one another day by day, through months of their lengths and leap
years. The number of a day is what is counted along them, forward and back, from the first of
January 1970.
-/

namespace TrajectoryFormat.Calendar

theorem daysInMonth_bounds (year : Int) (month : Nat) :
    1 ≤ daysInMonth year month ∧ daysInMonth year month ≤ 31 := by
  unfold daysInMonth
  split
  · split <;> decide
  all_goals decide

/-- A day of the calendar. -/
structure Date where
  year : Int
  month : Nat
  day : Nat
  month_pos : 1 ≤ month
  month_le : month ≤ 12
  day_pos : 1 ≤ day
  day_le : day ≤ daysInMonth year month

namespace Date

def epoch : Date := ⟨1970, 1, 1, by decide, by decide, by decide, by decide⟩

/-- The first day of a month. -/
def monthStart (year : Int) (month : Nat) (month_pos : 1 ≤ month) (month_le : month ≤ 12) : Date :=
  ⟨year, month, 1, month_pos, month_le, Nat.le_refl 1, (daysInMonth_bounds year month).1⟩

def newYear (year : Int) : Date := monthStart year 1 (by decide) (by decide)

/-- The last day of a month. -/
def monthEnd (year : Int) (month : Nat) (month_pos : 1 ≤ month) (month_le : month ≤ 12) : Date :=
  ⟨year, month, daysInMonth year month, month_pos, month_le, (daysInMonth_bounds year month).1,
    Nat.le_refl _⟩

/-- The day after: in the same month, in the next month, or in the next year. -/
def next (d : Date) : Date :=
  if h : d.day < daysInMonth d.year d.month then
    { d with day := d.day + 1, day_pos := Nat.le_add_left 1 d.day, day_le := h }
  else if h : d.month < 12 then monthStart d.year (d.month + 1) (Nat.le_add_left 1 d.month) h
  else newYear (d.year + 1)

/-- The number of the day in its year, from 1, and the year. -/
def inYear (d : Date) : Day := ⟨d.year, daysBefore d.year d.month + d.day⟩

/-- Days from the first of January 1970 up to a date: each day after counts one more. -/
inductive Counted : Date → Int → Prop
  | epoch : Counted epoch 0
  | next {d : Date} {n : Int} (count : Counted d n) : Counted d.next (n + 1)
  | back {d : Date} {n : Int} (count : Counted d.next (n + 1)) : Counted d n

end Date

/-! ## Lengths -/

theorem daysBefore_succ {month : Nat} (positive : 1 ≤ month) (year : Int) :
    daysBefore year (month + 1) = daysBefore year month + daysInMonth year month := by
  obtain ⟨month, rfl⟩ := Nat.exists_eq_add_of_le' positive
  rfl

/-- The months fill the year. -/
theorem daysBefore_december (year : Int) :
    daysBefore year 12 + daysInMonth year 12 = daysInYear year := by
  simp only [daysBefore, daysInMonth, daysInYear]
  split <;> rfl

theorem leapsThrough_succ (year : Int) :
    leapsThrough year = leapsThrough (year - 1) + if isLeap year then 1 else 0 := by
  have leap : isLeap year = true ↔ year % 4 = 0 ∧ (year % 100 ≠ 0 ∨ year % 400 = 0) := by
    simp [isLeap]
  unfold leapsThrough
  split
  · next holds =>
    rw [leap] at holds
    omega
  · next fails =>
    rw [leap] at fails
    omega

/-- A year begins when the days of the year before it are over. -/
theorem yearStart_succ (year : Int) : yearStart (year + 1) = yearStart year + daysInYear year := by
  have through := leapsThrough_succ year
  rw [yearStart, yearStart, daysInYear, Int.add_sub_cancel, through]
  split <;> omega

/-! ## The number of a day -/

namespace Date

variable {d : Date} {n : Int}

theorem number_inYear (d : Date) :
    d.inYear.number = yearStart d.year + (daysBefore d.year d.month + d.day) - 1 := by
  rw [inYear, Day.number, Nat.cast_add]

/-- The day after has the next number. -/
theorem number_next (d : Date) : d.next.inYear.number = d.inYear.number + 1 := by
  have last := d.day_le
  rw [number_inYear, number_inYear]
  unfold next
  split
  · simp only
    omega
  · next lastDay =>
    split
    · have month := daysBefore_succ d.month_pos d.year
      simp only [monthStart]
      omega
    · next lastMonth =>
      have december : d.month = 12 := Nat.le_antisymm d.month_le (Nat.le_of_not_lt lastMonth)
      have months := daysBefore_december d.year
      have year := yearStart_succ d.year
      rw [← december] at months
      simp only [newYear, monthStart, daysBefore]
      omega

theorem number_of_counted (count : Counted d n) : d.inYear.number = n := by
  induction count with
  | epoch => decide
  | next count ih => rw [number_next, ih]
  | back count ih =>
    rw [number_next] at ih
    omega

/-! ## Every date is counted -/

/-- The number of a day is what is counted up to it. It is so for a day just where it is so for the
day after. -/
def Reached (d : Date) : Prop := Counted d d.inYear.number

theorem reached_next_iff : d.next.Reached ↔ d.Reached := by
  unfold Reached
  rw [number_next]
  exact ⟨.back, .next⟩

/-- Within a month the days follow the first. -/
theorem reached_iff_monthStart (d : Date) :
    d.Reached ↔ (monthStart d.year d.month d.month_pos d.month_le).Reached := by
  obtain ⟨year, month, day, month_pos, month_le, day_pos, day_le⟩ := d
  induction day, day_pos using Nat.le_induction with
  | base => rfl
  | succ day day_pos ih =>
    have before : day < daysInMonth year month := day_le
    have after :=
      reached_next_iff (d := ⟨year, month, day, month_pos, month_le, day_pos, before.le⟩)
    rw [next, dif_pos before] at after
    rw [after]
    exact ih before.le

theorem reached_monthEnd_iff {year : Int} {month : Nat} (month_pos : 1 ≤ month)
    (month_le : month ≤ 12) :
    (monthEnd year month month_pos month_le).Reached ↔
      (monthStart year month month_pos month_le).Reached :=
  reached_iff_monthStart _

theorem next_monthEnd {year : Int} {month : Nat} (month_pos : 1 ≤ month) (month_lt : month < 12) :
    (monthEnd year month month_pos month_lt.le).next =
      monthStart year (month + 1) (Nat.le_add_left 1 month) month_lt := by
  unfold next
  exact (dif_neg (Nat.lt_irrefl _)).trans (dif_pos month_lt)

theorem next_yearEnd (year : Int) :
    (monthEnd year 12 (by decide) (by decide)).next = newYear (year + 1) := by
  unfold next
  exact (dif_neg (Nat.lt_irrefl _)).trans (dif_neg (Nat.lt_irrefl _))

theorem reached_monthStart_iff {year : Int} {month : Nat} (month_pos : 1 ≤ month)
    (month_le : month ≤ 12) :
    (monthStart year month month_pos month_le).Reached ↔ (newYear year).Reached := by
  induction month, month_pos using Nat.le_induction with
  | base => rfl
  | succ month month_pos ih =>
    have before : month ≤ 12 := Nat.le_of_succ_le month_le
    have step := reached_next_iff (d := monthEnd year month month_pos before)
    rw [next_monthEnd month_pos month_le] at step
    rw [step, reached_monthEnd_iff, ih before]

theorem reached_newYear_succ_iff (year : Int) :
    (newYear (year + 1)).Reached ↔ (newYear year).Reached := by
  rw [← next_yearEnd, reached_next_iff, reached_monthEnd_iff]
  exact reached_monthStart_iff _ _

/-- From the year of the epoch every year is reached, forward and back. -/
theorem reached_newYear (year : Int) : (newYear year).Reached := by
  induction year using Int.inductionOn' (b := 1970) with
  | zero => exact .epoch
  | succ year _ ih => exact (reached_newYear_succ_iff year).mpr ih
  | pred year _ ih =>
    rw [← reached_newYear_succ_iff, Int.sub_add_cancel]
    exact ih

theorem reached (d : Date) : d.Reached := by
  rw [reached_iff_monthStart, reached_monthStart_iff]
  exact reached_newYear d.year

/-- The number of a day is what is counted along the calendar, and nothing else is. -/
theorem counted_iff : Counted d n ↔ d.inYear.number = n := by
  constructor
  · exact number_of_counted
  · intro number
    exact number ▸ reached d

/-! ## The day of a date -/

theorem ofMonth?_eq (d : Date) (inRange : InRange d.year) :
    Day.ofMonth? d.year d.month d.day = some d.inYear := by
  rw [Day.ofMonth?, if_pos ⟨inRange, d.month_pos, d.month_le, d.day_pos, d.day_le⟩]
  rfl

end Date

end TrajectoryFormat.Calendar
