import TrajectoryFormat.Proofs.LineFields
import TrajectoryFormat.Proofs.SampleColumns

/-!
# Repaired times

The times of an accepted record are raised to their running maximum once, and that one column is
what is written and what is measured. It never goes down, so no written difference after the first
is negative, and neither a column that climbs already nor a repaired one is changed by a repair.
-/

namespace TrajectoryFormat.Record.Transformer

open Checked

variable {f : DataFormat} {shape : OutputShape} {t : Transformer} {counter : Nat} {record : Text}
  {done : Transformed}

/-- The absolute times of points before their repair: instants, or numbers, which are decoded where
the type of the times is a delta type. -/
def absoluteTimes (t : Transformer) (points : List (List Text)) :
    Except RecordError (List Decimal) :=
  match t.timePattern with
  | some pattern => (column t.time points).mapM (Series.instant pattern)
  | none => do
    let parsed ← (column t.time points).mapM Series.number
    (Series.decoded (DeclaredType.isDelta t.time.declaredType) parsed).mapError Series.overflowOf

def HasTimes (t : Transformer) : Prop :=
  DeclaredType.isNumber t.time.declaredType = true
    ∨ DeclaredType.isDatetime t.time.declaredType = true

instance (t : Transformer) : Decidable t.HasTimes := inferInstanceAs (Decidable (_ ∨ _))

theorem patternOf_isDatetime {declaredType : Text} {pattern : Option DatePattern}
    (h : DeclaredType.isDatetime declaredType = true)
    (found : patternOf declaredType = .ok pattern) :
    ∃ p, pattern = some p := by
  rw [patternOf, if_pos h, map_eq_ok] at found
  obtain ⟨p, _, rfl⟩ := found
  exact ⟨p, rfl⟩

theorem length_absoluteTimes {points : List (List Text)} {raw : List Decimal}
    (h : t.absoluteTimes points = .ok raw) : raw.length = points.length := by
  unfold absoluteTimes at h
  split at h
  · rw [← (mapM_eq_ok.mp h).length_eq, column, List.length_map]
  · obtain ⟨parsed, reading, decoding⟩ := bind_eq_ok.mp h
    rw [Series.length_decoded (mapError_eq_ok.mp decoding),
      ← (mapM_eq_ok.mp reading).length_eq, column, List.length_map]

/-- The repaired times of an accepted record are the running maximum of its absolute times. -/
theorem Account.time_monotonic (a : t.Account counter record done)
    (pattern : patternOf t.time.declaredType = .ok t.timePattern) (timed : t.HasTimes) :
    ∃ raw isDecimal, t.absoluteTimes a.points = .ok raw
      ∧ a.time = .numeric (Series.monotonic raw) false isDecimal := by
  have repaired := a.time_eq
  rcases timed with isNumber | isDatetime
  · obtain ⟨parsed, reading, series⟩ := a.raw_numeric pattern .time isNumber
    simp only [Axes.series] at series
    rw [← series] at repaired
    obtain ⟨raw, decoding, time⟩ := Series.repaired_numeric_eq_ok.mp repaired
    refine ⟨raw, _, ?_, time.symm⟩
    rw [absoluteTimes, timePattern_of_isNumber pattern isNumber]
    exact bind_eq_ok.mpr ⟨parsed, reading, mapError_eq_ok.mpr decoding⟩
  · obtain ⟨p, hp⟩ := patternOf_isDatetime isDatetime pattern
    have reading := (rawAxes_eq_ok.mp a.raw_eq).2.2
    rw [rawTime, hp] at reading
    obtain ⟨instants, reading, series⟩ := Series.ofDates_eq_ok.mp reading
    rw [← series] at repaired
    obtain ⟨raw, decoding, time⟩ := Series.repaired_numeric_eq_ok.mp repaired
    cases decoding
    refine ⟨instants, false, ?_, time.symm⟩
    rw [absoluteTimes, hp]
    exact reading

/-- One column of times that is both written and measured: the running maximum of the absolute
times, written without a step back where the times of a line stand, and left alone by a repair. -/
structure Account.Repair (a : t.Account counter record done) (raw times : List Decimal)
    (isDecimal : Bool) (written : List ℤ) : Prop where
  absolute : t.absoluteTimes a.points = .ok raw
  raw_length : raw.length = a.points.length
  times_length : times.length = a.points.length
  greatest : ∀ k d, times[k]? = some d →
    d ∈ raw.take (k + 1) ∧ ∀ v ∈ raw.take (k + 1), v.value ≤ d.value
  compressed : (Series.numeric times false isDecimal).compressed t.scale = .ok (a.columns .time)
  measured : done.sample.points.map (·.t) = times.map Decimal.toFloat
  shown : a.columns .time = written.map Number.ofInt
  placed : ∀ {place}, (Dimension.ofShape t.shape)[place]? = some .time → ∀ k < a.points.length,
    a.fields[k * t.pointColumns.length + place]? = written[k]?.map Number.ofInt
  steps : ∀ n ∈ written.tail, 0 ≤ n
  unchanged : Series.Climbs raw → times = raw
  repaired : (Series.numeric times false isDecimal).repaired = .ok (.numeric times false isDecimal)

/-- Times of numbers or of dates are repaired into one column, which is written and measured. -/
theorem repaired_times_consistent (made : ofFormat f shape = .ok t) (timed : t.HasTimes)
    (accepted : (t.prepare counter record).1 = .ok done) :
    ∃ (a : t.Account counter record done) (raw times : List Decimal) (isDecimal : Bool)
      (written : List ℤ), a.Repair raw times isDecimal written := by
  obtain ⟨_, _, _, _, _, _, pattern, scaling⟩ := ofFormat_eq_ok.mp made
  obtain ⟨a⟩ := exists_account accepted
  obtain ⟨raw, isDecimal, reading, time⟩ := a.time_monotonic pattern timed
  have columns := a.columns_eq .time
  have sample := Statistics.Sample.map_t_points a.sample_eq
  simp only [Axes.series, time] at columns sample
  obtain ⟨coded, coding, written, hw, texts⟩ := Series.compressed_numeric_eq_ok.mp columns
  refine ⟨a, raw, Series.monotonic raw, isDecimal, written, ?_⟩
  exact
    { absolute := reading
      raw_length := length_absoluteTimes reading
      times_length := by rw [Series.length_monotonic, length_absoluteTimes reading]
      greatest := fun _ _ => Series.monotonic_greatest
      compressed := columns
      measured := sample
      shown := texts.symm
      placed := by
        intro place shown k bound
        rw [a.getElem?_fields made shown bound, ← texts, List.getElem?_map]
      steps := Series.tailNonneg_of_climbs (scaleFor_nonneg scaling) (Series.climbs_monotonic raw)
        coding hw
      unchanged := Series.monotonic_of_climbs
      repaired := Series.repaired_numeric_eq_ok.mpr ⟨_, rfl, by rw [Series.monotonic_monotonic]⟩ }

def daysFormat : DataFormat :=
  let array := ArrayFormat.ofDeclaration
    "ARRAY(_X INTEGER , _Y INTEGER , _TIME DATETIME[\"yyyy-MM-dd\"] ,)"
  { attributes := [.declared "_ID" "STRING" ";", .declared "_COORDINATES" array.declaration ";"]
    coordinates := some array }

def days : Transformer :=
  { format := daysFormat
    coordinates := ArrayFormat.ofDeclaration
      "ARRAY(_X INTEGER , _Y INTEGER , _TIME DATETIME[\"yyyy-MM-dd\"] ,)"
    x := ⟨0, "INTEGER"⟩
    y := ⟨1, "INTEGER"⟩
    time := ⟨2, "DATETIME[\"yyyy-MM-dd\"]"⟩
    timePattern := (DatePattern.compile "yyyy-MM-dd").toOption
    scale := (Decimal.powerOfTen? 5).getD .zero
    shape := .all }

/-- The second of these three days lies before the first. -/
def dayBack : Text := "a;0,0,2020-03-01,1,1,2020-02-29,2,2,2020-03-02"

theorem repaired_times_consistent_dayBack :
    ∃ done, ofFormat daysFormat .all = .ok days ∧ days.HasTimes
      ∧ (days.prepare 0 dayBack).1 = .ok done
      ∧ ∃ (a : days.Account 0 dayBack done) (raw times : List Decimal) (isDecimal : Bool)
        (written : List ℤ), a.Repair raw times isDecimal written := by
  have made : ofFormat daysFormat .all = .ok days := by
    refine ofFormat_eq_ok.mpr ⟨rfl, rfl, rfl, ?_, ?_, ?_, ?_, ?_⟩ <;> decide +kernel
  have timed : days.HasTimes := by decide +kernel
  obtain ⟨done, accepted⟩ : ∃ done, (days.prepare 0 dayBack).1 = .ok done :=
    exists_of_isOk (by decide +kernel)
  exact ⟨done, made, timed, accepted, repaired_times_consistent made timed accepted⟩

end TrajectoryFormat.Record.Transformer
