import TrajectoryFormat.Proofs.BondedPattern
import TrajectoryFormat.Proofs.CalendarDays
import TrajectoryFormat.Proofs.DateReading
import TrajectoryFormat.Proofs.Letters
import TrajectoryFormat.Proofs.PatternTranslation

/-!
# Instants of date values

A moment of the calendar is written by a pattern, its numbers with as many digits as the pattern has
letters and its literal text as it is. The value is read back as the fields of the moment, in
whatever order the pattern has them, and so as the milliseconds that are counted from the beginning
of 1970.
-/

namespace TrajectoryFormat

open Calendar Checked Text

/-! ## Moments and their values -/

/-- A number of a moment that a pattern writes with all its digits. -/
inductive DateUnit where
  | year
  | month
  | day
  | hour
  | minute
  | second
  | millisecond
deriving DecidableEq

namespace DateUnit

def letter : DateUnit → Char
  | year => 'y'
  | month => 'M'
  | day => 'd'
  | hour => 'H'
  | minute => 'm'
  | second => 's'
  | millisecond => 'S'

/-- The length of the run of letters, and the number of digits in a value. -/
def width : DateUnit → Nat
  | year => 4
  | millisecond => 3
  | _ => 2

/-- The field that the run stands for. -/
def field : DateUnit → DateField
  | year => .year
  | month => .month
  | day => .day
  | hour => .hour
  | minute => .minute
  | second => .second
  | millisecond => .milliseconds

/-- The units that give a day. -/
def ofDay : List DateUnit := [year, month, day]

/-- The units that give a time of day, to the second. -/
def ofTime : List DateUnit := [hour, minute, second]

@[simp] theorem ofLetter?_letter (u : DateUnit) :
    DateField.ofLetter? u.letter (1 + (u.width - 1)) = some u.field := by
  cases u <;> rfl

@[simp] theorem isAlpha_letter (u : DateUnit) : u.letter.isAlpha = true := by cases u <;> rfl

theorem letter_mem (u : DateUnit) : u.letter ∈ DatePattern.fieldLetters := by cases u <;> decide

theorem isTime_field_of_mem (u : DateUnit) : u ∈ ofDay → u.field.isTime = false := by
  cases u <;> decide

@[simp] theorem isZone_field (u : DateUnit) : u.field.isZone = false := by cases u <;> rfl

end DateUnit

/-- A day of the years 0 to 9999 and a time of that day. -/
structure Moment where
  date : Date
  hour : Nat
  minute : Nat
  second : Nat
  millisecond : Nat
  year_nonneg : 0 ≤ date.year
  year_le : date.year ≤ 9999
  hour_lt : hour < 24
  minute_lt : minute < 60
  second_lt : second < 60
  millisecond_lt : millisecond < 1000

namespace Moment

def number (m : Moment) : DateUnit → Nat
  | .year => m.date.year.toNat
  | .month => m.date.month
  | .day => m.date.day
  | .hour => m.hour
  | .minute => m.minute
  | .second => m.second
  | .millisecond => m.millisecond

/-- A unit has room for its number. -/
theorem number_lt (m : Moment) (u : DateUnit) : m.number u < 10 ^ u.width := by
  have day := Nat.le_trans m.date.day_le (daysInMonth_bounds _ _).2
  have month := m.date.month_le
  have year := m.year_le
  have hour := m.hour_lt
  have minute := m.minute_lt
  have second := m.second_lt
  have millisecond := m.millisecond_lt
  cases u <;> simp only [number, DateUnit.width] <;> omega

end Moment

namespace DatePattern

/-- What a part that is no run stands for. -/
def Part.literal? : Part → Option Text
  | .run _ _ => none
  | .quote => some ['\'']
  | .quoted inside => some inside
  | .other c => some [c]

/-- The parts of a pattern with the units that they show of a moment, and the value that they make:
a run makes the digits of its unit, and a part that stands for text without blanks makes that
text. -/
inductive Shows (m : Moment) : List Part → List DateUnit → Text → Prop
  | nothing : Shows m [] [] []
  | unit (u : DateUnit) {parts : List Part} {units : List DateUnit} {value : Text}
      (others : Shows m parts units value) :
      Shows m (.run u.letter (u.width - 1) :: parts) (u :: units)
        (Decimal.paddedDigits u.width (m.number u) ++ value)
  | literal {p : Part} {text : Text} {parts : List Part} {units : List DateUnit} {value : Text}
      (stands : p.literal? = some text) (unblank : ∀ c ∈ text, isBlank c = false)
      (others : Shows m parts units value) : Shows m (p :: parts) units (text ++ value)

variable {m : Moment} {parts : List Part} {units : List DateUnit} {value s rest : Text}
  {items : List DateItem} {p : Part} {u : DateUnit}

namespace Shows

theorem legal (shows : Shows m parts units value) : Legal parts := by
  induction shows with
  | nothing => exact List.forall_mem_nil _
  | unit u _ ih =>
    intro c mem
    rcases List.mem_cons.mp mem with same | later
    · exact same ▸ u.letter_mem
    · exact ih c later
  | @literal p _ _ _ _ stands _ _ ih =>
    cases p with
    | run => cases stands
    | _ => exact ih

theorem unblank (shows : Shows m parts units value) : ∀ c ∈ value, isBlank c = false := by
  induction shows with
  | nothing => exact List.forall_mem_nil _
  | unit u _ ih =>
    intro c mem
    rcases List.mem_append.mp mem with digit | later
    · exact isBlank_of_isDigit (Decimal.isDigit_of_mem_paddedDigits _ _ c digit)
    · exact ih c later
  | literal _ unblank _ ih =>
    intro c mem
    exact (List.mem_append.mp mem).elim (unblank c) (ih c)

end Shows

theorem Reads.of_run (reads : Reads (.run u.letter (u.width - 1) :: parts) items) :
    ∃ others, items = .field u.field :: others ∧ Reads parts others := by
  cases reads with
  | run stands others =>
    rw [u.ofLetter?_letter, Option.some.injEq] at stands
    exact ⟨_, stands ▸ rfl, others⟩

theorem Reads.of_literal {text : Text} (reads : Reads (p :: parts) items)
    (stands : p.literal? = some text) :
    ∃ others, items = text.map .literal ++ others ∧ Reads parts others := by
  cases reads with
  | run => cases stands
  | quote others =>
    cases stands
    exact ⟨_, rfl, others⟩
  | quoted others =>
    cases stands
    exact ⟨_, rfl, others⟩
  | other others =>
    cases stands
    exact ⟨_, rfl, others⟩

/-- The fields of a pattern are those of the units that it shows. -/
theorem Shows.field_mem_iff (shows : Shows m parts units value) (reads : Reads parts items)
    {f : DateField} :
    .field f ∈ items ↔ ∃ u ∈ units, u.field = f := by
  induction shows generalizing items with
  | nothing =>
    cases reads
    simp
  | unit u _ ih =>
    obtain ⟨others, rfl, later⟩ := reads.of_run
    rw [List.mem_cons, ih later, List.exists_mem_cons_iff, DateItem.field.injEq, eq_comm]
  | literal stands _ _ ih =>
    obtain ⟨others, rfl, later⟩ := reads.of_literal stands
    rw [List.mem_append, ih later]
    simp

end DatePattern

/-! ## Fields read -/

namespace Moment

open DateReader

variable {α : Type} {m : Moment} {units : List DateUnit} {u w : DateUnit}

/-- A number that is known where its unit has been read. -/
def known (units : List DateUnit) (u : DateUnit) (number : α) : Option α :=
  if u ∈ units then some number else none

/-- The fields of a moment that these units give. -/
def fields (m : Moment) (units : List DateUnit) : DateFields where
  year := known units .year m.date.year
  month := known units .month m.date.month
  day := known units .day m.date.day
  afternoon := known units .hour (12 ≤ m.hour)
  hourOfHalfDay := known units .hour (m.hour % 12)
  minute := known units .minute m.minute
  second := known units .second m.second
  nanosecond := known units .millisecond (m.millisecond * 1000000)

theorem agree_known [DecidableEq α] (number : α) :
    DateFields.agree (known units u number) number = .ok (known (units ++ [u]) u number) := by
  unfold known
  rw [if_pos (List.mem_append_right _ List.mem_cons_self)]
  split
  · exact if_pos rfl
  · rfl

theorem known_append (other : u ≠ w) (number : α) :
    known (units ++ [w]) u number = known units u number := by
  simp only [known, List.mem_append, List.mem_singleton, other, or_false]

theorem known_of_mem (mem : u ∈ units) (number : α) : known units u number = some number :=
  if_pos mem

/-- A number of two digits within its bounds is read and stored. -/
theorem read_within {low high n : Nat} (fits : n < 10 ^ 2) (least : low ≤ n) (most : n ≤ high)
    (units : List DateUnit) (u : DateUnit) (s : Text) (store : Option Nat → DateFields) :
    (do
      let (found, rest) ← DateReader.number 2 (trimStart (Decimal.paddedDigits 2 n ++ s))
      pure (store (← DateFields.agree (known units u n) (← DateFields.within low high found)),
        rest)) =
        Except.ok (store (known (units ++ [u]) u n), s) := by
  apply bind_eq_ok.mpr
  refine ⟨_, number_paddedDigits (by decide) fits (by decide) s,
    bind_eq_ok.mpr ⟨n, if_pos ⟨least, most⟩, ?_⟩⟩
  exact bind_eq_ok.mpr ⟨_, agree_known n, rfl⟩

/-- The digits of a unit are read as its field, and what follows them is left. -/
theorem field_paddedDigits (m : Moment) (units : List DateUnit) (u : DateUnit) (s : Text) :
    field (m.fields units) (Decimal.paddedDigits u.width (m.number u) ++ s) u.field =
      .ok (m.fields (units ++ [u]), s) := by
  have fits := m.number_lt u
  cases u with
  | year =>
    have least := m.year_nonneg
    have most := m.year_le
    have inRange : -2147483648 ≤ m.date.year ∧ m.date.year ≤ 2147483647 := by omega
    have read : DateReader.year (trimStart (Decimal.paddedDigits 4 (m.number .year) ++ s))
        = .ok (m.date.year, s) := by
      rw [year_paddedDigits fits, number, Int.toNat_of_nonneg least]
    apply bind_eq_ok.mpr
    refine ⟨_, read, (if_pos inRange).trans (bind_eq_ok.mpr ⟨_, agree_known _, pure_eq_ok.mpr ?_⟩)⟩
    simp [fields, known_append]
  | month =>
    apply (read_within fits m.date.month_pos m.date.month_le units .month s fun month =>
      { m.fields units with month }).trans
    simp [fields, known_append, number]
  | day =>
    have most := Nat.le_trans m.date.day_le (daysInMonth_bounds _ _).2
    apply (read_within fits m.date.day_pos most units .day s fun day =>
      { m.fields units with day }).trans
    simp [fields, known_append, number]
  | hour =>
    -- an hour is stored as the half of the day and the place in it, so it is agreed on twice
    have most := Nat.le_of_lt_succ m.hour_lt
    apply bind_eq_ok.mpr
    refine ⟨_, number_paddedDigits (by decide) fits (by decide) s,
      bind_eq_ok.mpr ⟨_, if_pos ⟨Nat.zero_le _, most⟩,
        bind_eq_ok.mpr ⟨_, agree_known _, bind_eq_ok.mpr ⟨_, agree_known _, pure_eq_ok.mpr ?_⟩⟩⟩⟩
    simp [fields, known_append]
  | minute =>
    have most := Nat.le_of_lt_succ m.minute_lt
    apply (read_within fits (Nat.zero_le _) most units .minute s fun minute =>
      { m.fields units with minute }).trans
    simp [fields, known_append, number]
  | second =>
    have most := Nat.le_of_lt m.second_lt
    apply (read_within fits (Nat.zero_le _) most units .second s fun second =>
      { m.fields units with second }).trans
    simp [fields, known_append, number]
  | millisecond =>
    apply bind_eq_ok.mpr
    refine ⟨_, exactDigits_paddedDigits (by decide) fits s,
      bind_eq_ok.mpr ⟨_, agree_known _, pure_eq_ok.mpr ?_⟩⟩
    simp [fields, known_append]

/-- The day of a moment, as its fields give it. -/
theorem day?_fields (dated : ∀ u ∈ DateUnit.ofDay, u ∈ units) :
    (m.fields units).day? = .ok m.date.inYear := by
  have least := m.year_nonneg
  have most := m.year_le
  have inRange : InRange m.date.year := by
    unfold InRange
    omega
  have year : (m.fields units).givenYear = .ok (some m.date.year) :=
    congrArg Except.ok (known_of_mem (dated .year (by decide)) _)
  have month : (m.fields units).month = some m.date.month :=
    known_of_mem (dated .month (by decide)) _
  have day : (m.fields units).day = some m.date.day := known_of_mem (dated .day (by decide)) _
  apply bind_eq_ok.mpr
  refine ⟨_, year, ?_⟩
  rw [month, day]
  dsimp only
  rw [m.date.ofMonth?_eq inRange]
  rfl

/-- The time of day of a moment, as its fields give it. -/
theorem timeOfDay?_fields (timed : ∀ u ∈ DateUnit.ofTime, u ∈ units) :
    (m.fields units).timeOfDay? =
      .ok ⟨(m.hour * 60 + m.minute) * 60 + m.second,
        if .millisecond ∈ units then m.millisecond else 0⟩ := by
  have afternoon : (m.fields units).afternoon = some (decide (12 ≤ m.hour)) :=
    known_of_mem (timed .hour (by decide)) _
  have hour : (m.fields units).hourOfHalfDay = some (m.hour % 12) :=
    known_of_mem (timed .hour (by decide)) _
  have minute : (m.fields units).minute = some m.minute :=
    known_of_mem (timed .minute (by decide)) _
  have second : (m.fields units).second = some m.second :=
    known_of_mem (timed .second (by decide)) _
  have whole : (if decide (12 ≤ m.hour) = true then 12 + m.hour % 12 else m.hour % 12)
      = m.hour := by
    have most := m.hour_lt
    simp only [decide_eq_true_eq]
    split <;> omega
  have unpadded : min m.second 59 = m.second := Nat.min_eq_left (Nat.le_of_lt_succ m.second_lt)
  have noLeap : m.second - 59 = 0 := Nat.sub_eq_zero_of_le (Nat.le_of_lt_succ m.second_lt)
  have nanosecond : (m.fields units).nanosecond.getD 0 / 1000000 =
      if .millisecond ∈ units then m.millisecond else 0 := by
    simp only [fields, known]
    split
    · exact Nat.mul_div_cancel _ (by decide)
    · rfl
  unfold DateFields.timeOfDay?
  rw [afternoon, hour, minute, second]
  simp only [DateFields.need, Option.isNone_some, Bool.and_false, Bool.false_eq_true, if_false,
    Option.getD_some, unpadded, noLeap, Nat.zero_mul, Nat.zero_add, nanosecond]
  refine bind_eq_ok.mpr ⟨_, rfl, bind_eq_ok.mpr ⟨_, rfl, bind_eq_ok.mpr ⟨_, rfl, ?_⟩⟩⟩
  rw [whole]
  rfl

end Moment

/-! ## Values read -/

namespace DatePattern

open DateReader

variable {m : Moment} {parts : List Part} {units seen : List DateUnit} {pattern value : Text}
  {items : List DateItem}

/-- A value is read, from the left, as the fields of the units that the pattern shows. -/
theorem Shows.run_eq (shows : Shows m parts units value) (reads : Reads parts items) :
    run (m.fields seen) value (DateStep.ofItems items) = .ok (m.fields (seen ++ units)) := by
  -- the fields read so far are those of the units seen, whatever their order
  induction shows generalizing items seen with
  | nothing =>
    cases reads
    rw [List.append_nil]
    rfl
  | @unit u _ units value _ ih =>
    obtain ⟨others, rfl, later⟩ := reads.of_run
    have after : run (m.fields (seen ++ [u])) value (DateStep.ofItems others)
        = .ok (m.fields (seen ++ [u] ++ units)) :=
      ih later
    rw [List.append_assoc] at after
    rw [DateStep.ofItems, run, m.field_paddedDigits]
    exact after
  | literal stands unblank _ ih =>
    obtain ⟨others, rfl, later⟩ := reads.of_literal stands
    rw [run_literals unblank]
    exact ih later

theorem Shows.exists_run {u : DateUnit} (shows : Shows m parts units value) (mem : u ∈ units) :
    .run u.letter (u.width - 1) ∈ parts := by
  induction shows with
  | nothing => cases mem
  | unit w _ ih =>
    rcases List.mem_cons.mp mem with rfl | later
    · exact List.mem_cons_self
    · exact List.mem_cons_of_mem _ (ih later)
  | literal _ _ _ ih => exact List.mem_cons_of_mem _ (ih mem)

theorem Spells.letter_mem {s rest : Text} {c : Char} {more : Nat} (spelled : Spells s parts rest)
    (mem : .run c more ∈ parts) : c ∈ s := by
  induction spelled with
  | nothing => cases mem
  | part first _ ih =>
    rcases List.mem_cons.mp mem with rfl | later
    · cases first
      exact List.mem_cons_self
    · exact first.suffix.subset (ih later)

/-- A pattern that shows some unit of a moment compiles to the items of its parts. -/
theorem Shows.compile_eq {u : DateUnit} (shows : Shows m parts units value)
    (spelled : Spells pattern parts []) (some : u ∈ units) (noBond : dateBond ∉ pattern) :
    ∃ items, Reads parts items ∧ compile pattern = .ok ⟨pattern, items⟩ := by
  have letter := spelled.letter_mem (shows.exists_run some)
  have written : isAllBlank pattern = false := by
    apply List.all_eq_false.mpr
    refine ⟨u.letter, letter, ?_⟩
    rw [isBlank_of_continuesIdentifier (continuesIdentifier_of_isAlpha u.isAlpha_letter)]
    exact Bool.false_ne_true
  obtain ⟨items, reads, scanned⟩ := scan_of_spells spelled shows.legal
  refine ⟨items, reads, ?_⟩
  rw [DatePattern.compile_eq, map_unbonded_eq_self noBond, written, scanned, scan,
    if_neg Bool.false_ne_true, if_neg Bool.false_ne_true]
  change Except.ok (⟨pattern, items ++ []⟩ : DatePattern) = _
  rw [List.append_nil]

/-- A pattern of units has no zone, and it has a time where it shows one. -/
theorem Shows.instant?_eq (shows : Shows m parts units value) (reads : Reads parts items)
    (source : Text) (f : DateFields) :
    (⟨source, items⟩ : DatePattern).instant? f =
      if ∃ u ∈ units, u.field.isTime = true then f.localTime? else f.midnight? := by
  have zone : ¬ (⟨source, items⟩ : DatePattern).hasZone = true := by
    rw [hasZone, anyField_iff]
    intro ⟨f, mem, zone⟩
    obtain ⟨u, _, rfl⟩ := (shows.field_mem_iff reads).mp mem
    rw [u.isZone_field] at zone
    cases zone
  have time : (⟨source, items⟩ : DatePattern).hasTime = true ↔ ∃ u ∈ units,
      u.field.isTime = true := by
    rw [hasTime, anyField_iff]
    simp only [shows.field_mem_iff reads]
    constructor
    · intro ⟨_, ⟨u, mem, rfl⟩, isTime⟩
      exact ⟨u, mem, isTime⟩
    · intro ⟨u, mem, isTime⟩
      exact ⟨_, ⟨u, mem, rfl⟩, isTime⟩
  rw [instant?, if_neg zone]
  exact if_congr time rfl rfl

/-- The value of a moment is read as the instant that the fields of its units give. -/
theorem Shows.epochMillis_eq (shows : Shows m parts units value) (reads : Reads parts items)
    {source : Text} {instant : Int}
    (found : (if ∃ u ∈ units, u.field.isTime = true then (m.fields units).localTime?
      else (m.fields units).midnight?) = .ok instant) :
    (⟨source, items⟩ : DatePattern).epochMillis value = .ok instant := by
  have read : run (m.fields []) value (DateStep.ofItems items) = .ok (m.fields ([] ++ units)) :=
    shows.run_eq reads
  have nothing : m.fields [] = {} := rfl
  rw [nothing, List.nil_append] at read
  rw [epochMillis, trim_of_no_blank shows.unblank]
  dsimp only
  rw [read]
  apply mapError_eq_ok.mpr
  apply bind_eq_ok.mpr
  exact ⟨_, rfl, (shows.instant?_eq reads source _).trans found⟩

/-- A value made by a pattern that shows a day, or a day and a time of day, is read as the
milliseconds from the beginning of 1970 to that moment: those of the days that are counted up to its
date, and those of its time. -/
theorem epochMillis_of_shown (noBond : dateBond ∉ pattern) (spelled : Spells pattern parts [])
    (shows : Shows m parts units value) (dated : ∀ u ∈ DateUnit.ofDay, u ∈ units) :
    ∃ p n, compile pattern = .ok p ∧ Date.Counted m.date n
      ∧ ((∀ u ∈ units, u ∈ DateUnit.ofDay) → p.epochMillis value = .ok (n * 86400000))
      ∧ ((∀ u ∈ DateUnit.ofTime, u ∈ units) →
        p.epochMillis value =
          .ok ((((n * 24 + m.hour) * 60 + m.minute) * 60 + m.second) * 1000
            + if .millisecond ∈ units then m.millisecond else 0)) := by
  obtain ⟨items, reads, compiled⟩ := shows.compile_eq spelled (dated .year (by decide)) noBond
  refine ⟨_, m.date.inYear.number, compiled, Date.counted_iff.mpr rfl, ?_, ?_⟩
  · intro dayOnly
    have noTime : ¬ ∃ u ∈ units, u.field.isTime = true := by
      intro ⟨u, mem, time⟩
      rw [u.isTime_field_of_mem (dayOnly u mem)] at time
      cases time
    apply shows.epochMillis_eq reads
    rw [if_neg noTime]
    apply bind_eq_ok.mpr
    refine ⟨_, m.day?_fields dated, pure_eq_ok.mpr ?_⟩
    simp only [DateFields.instant, DateFields.daySeconds]
    omega
  · intro timed
    apply shows.epochMillis_eq reads
    rw [if_pos ⟨.hour, timed .hour (by decide), rfl⟩]
    apply bind_eq_ok.mpr
    refine ⟨_, m.day?_fields dated, bind_eq_ok.mpr ⟨_, m.timeOfDay?_fields timed,
      pure_eq_ok.mpr ?_⟩⟩
    simp only [DateFields.instant, DateFields.daySeconds]
    push_cast
    omega

/-- Some seconds after ten in the morning of the second of March 2009. -/
private def sighting : Moment :=
  ⟨⟨2009, 3, 2, by decide, by decide, by decide, by decide⟩, 10, 4, 44, 0, by decide, by decide,
    by decide, by decide, by decide, by decide⟩

private theorem spells_sighting :
    Spells "dd/MM/yyyy'T'HH:mm:ss"
      [.run 'd' 1, .other '/', .run 'M' 1, .other '/', .run 'y' 3, .quoted "T", .run 'H' 1,
        .other ':', .run 'm' 1, .other ':', .run 's' 1] [] := by
  refine .part (@Starts.run 'd' 1 "/MM/yyyy'T'HH:mm:ss" (by decide) (by decide))
    (.part (.other rfl (by decide)) ?_)
  refine .part (@Starts.run 'M' 1 "/yyyy'T'HH:mm:ss" (by decide) (by decide))
    (.part (.other rfl (by decide)) ?_)
  refine .part (@Starts.run 'y' 3 "'T'HH:mm:ss" (by decide) (by decide)) ?_
  refine .part (@Starts.quoted 'T' "" "HH:mm:ss" (by decide) (by decide)) ?_
  refine .part (@Starts.run 'H' 1 ":mm:ss" (by decide) (by decide))
    (.part (.other rfl (by decide)) ?_)
  refine .part (@Starts.run 'm' 1 ":ss" (by decide) (by decide)) (.part (.other rfl (by decide)) ?_)
  exact .part (@Starts.run 's' 1 "" (by decide) (by decide)) .nothing

private theorem shows_sighting :
    Shows sighting
      [.run 'd' 1, .other '/', .run 'M' 1, .other '/', .run 'y' 3, .quoted "T", .run 'H' 1,
        .other ':', .run 'm' 1, .other ':', .run 's' 1]
      [.day, .month, .year, .hour, .minute, .second] "02/03/2009T10:04:44" := by
  have unblank : ∀ c ∈ "/T:".toList, isBlank c = false := solid_of_graphic (by decide)
  have mark {c : Char} (mem : c ∈ "/T:".toList) : ∀ d ∈ [c], isBlank d = false := by
    intro d same
    rw [List.mem_singleton.mp same]
    exact unblank c mem
  exact .unit .day <| .literal rfl (mark (by decide)) <|
    .unit .month <| .literal rfl (mark (by decide)) <|
    .unit .year <| .literal rfl (mark (by decide)) <|
    .unit .hour <| .literal rfl (mark (by decide)) <|
    .unit .minute <| .literal rfl (mark (by decide)) <|
    .unit .second .nothing

theorem epochMillis_of_shown_sighting :
    ∃ p, compile "dd/MM/yyyy'T'HH:mm:ss" = .ok p
      ∧ p.epochMillis "02/03/2009T10:04:44" = .ok 1235988284000 := by
  obtain ⟨p, n, compiled, counted, _, timed⟩ :=
    epochMillis_of_shown (by decide) spells_sighting shows_sighting (by decide)
  have days : n = 14305 := by
    rw [Date.counted_iff] at counted
    exact counted.symm
  subst days
  exact ⟨p, compiled, timed (by decide)⟩

end DatePattern

end TrajectoryFormat
