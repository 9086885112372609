import TrajectoryFormat.Proofs.Checked
import TrajectoryFormat.Proofs.SampleColumns
import TrajectoryFormat.Proofs.WrittenColumn
import TrajectoryFormat.Record.Transformer

/-!
# Accepted records

What a transformer has settled when it was made, and how an accepted record came to its line: the
points it was cut into, the series of its axes as they are read, the times after their repair, and
the columns that are written. Every later fact about accepted records starts from such an account.
-/

namespace TrajectoryFormat.Record

open Checked Description

/-- The three axes of a point. -/
inductive Dimension where
  | x
  | y
  | time
deriving DecidableEq, Repr

namespace Transformer

def axis (t : Transformer) : Dimension → Axis
  | .x => t.x
  | .y => t.y
  | .time => t.time

def Axes.series (a : Axes) : Dimension → Series
  | .x => a.x
  | .y => a.y
  | .time => a.time

def rawTime (t : Transformer) (points : List (List Text)) : Except RecordError Series :=
  match t.timePattern with
  | some pattern => Series.ofDates pattern (column t.time points)
  | none => Series.ofItems t.time.declaredType (column t.time points)

/-- Reads the three axes of points, times as they stand. -/
def rawAxes (t : Transformer) (points : List (List Text)) : Except RecordError Axes := do
  let x ← Series.ofItems t.x.declaredType (column t.x points)
  let y ← Series.ofItems t.y.declaredType (column t.y points)
  let time ← t.rawTime points
  pure ⟨x, y, time⟩

theorem rawAxes_eq_ok {t : Transformer} {points : List (List Text)} {raw : Axes} :
    t.rawAxes points = .ok raw ↔
      Series.ofItems t.x.declaredType (column t.x points) = .ok raw.x
        ∧ Series.ofItems t.y.declaredType (column t.y points) = .ok raw.y
        ∧ t.rawTime points = .ok raw.time := by
  simp only [rawAxes, bind_eq_ok, pure_eq_ok]
  constructor
  · rintro ⟨x, hx, y, hy, time, htime, rfl⟩
    exact ⟨hx, hy, htime⟩
  · rintro ⟨hx, hy, htime⟩
    exact ⟨_, hx, _, hy, _, htime, rfl⟩

/-- Reading the axes is reading them as they stand, and then repairing the times. -/
theorem readAxes_eq (t : Transformer) (points : List (List Text)) :
    t.readAxes points =
      t.rawAxes points >>= fun raw =>
        raw.time.repaired >>= fun time => pure ⟨raw.x, raw.y, time⟩ := by
  simp only [rawAxes, bind_assoc, pure_bind]
  unfold readAxes rawTime
  cases t.timePattern <;> rfl

theorem readAxes_eq_ok {t : Transformer} {points : List (List Text)} {axes : Axes} :
    t.readAxes points = .ok axes ↔
      ∃ raw time, t.rawAxes points = .ok raw ∧ raw.time.repaired = .ok time
        ∧ axes = ⟨raw.x, raw.y, time⟩ := by
  simp only [readAxes_eq, bind_eq_ok, pure_eq_ok]
  constructor
  · rintro ⟨raw, hraw, time, htime, rfl⟩
    exact ⟨raw, time, hraw, htime, rfl⟩
  · rintro ⟨raw, time, hraw, htime, rfl⟩
    exact ⟨raw, hraw, time, htime, rfl⟩

/-- The parts of a made transformer: the format and the shape it was made for, its axes among the
attributes of the coordinates array, the pattern of its dates, and its scale. -/
theorem ofFormat_eq_ok {f : DataFormat} {shape : OutputShape} {t : Transformer} :
    ofFormat f shape = .ok t ↔
      f.coordinates = some t.coordinates ∧ t.format = f ∧ t.shape = shape
        ∧ axis? t.coordinates t.coordinates.xIndex? = some t.x
        ∧ axis? t.coordinates t.coordinates.yIndex? = some t.y
        ∧ axis? t.coordinates t.coordinates.timeIndex? = some t.time
        ∧ patternOf t.time.declaredType = .ok t.timePattern
        ∧ scaleOf f.decimalPrecision = .ok t.scale := by
  constructor
  · intro made
    unfold ofFormat at made
    cases hc : f.coordinates with
    | none => simp [hc, throw_ne_ok] at made
    | some coordinates =>
      cases hx : axis? coordinates coordinates.xIndex? <;>
        cases hy : axis? coordinates coordinates.yIndex? <;>
        cases htime : axis? coordinates coordinates.timeIndex? <;>
        simp only [hc, hx, hy, htime, bind_eq_ok, pure_eq_ok] at made
      case some.some.some x y time =>
        obtain ⟨pattern, hpattern, scale, hscale, rfl⟩ := made
        exact ⟨rfl, rfl, rfl, hx, hy, htime, hpattern, hscale⟩
      all_goals cases made
  · rintro ⟨hc, rfl, rfl, hx, hy, htime, hpattern, hscale⟩
    unfold ofFormat
    simp only [hc, hx, hy, htime, hpattern, hscale]
    rfl

theorem value_of_scaleOf {precision : Nat} {scale : Decimal} (h : scaleOf precision = .ok scale) :
    scale.value = 10 ^ precision := by
  unfold scaleOf at h
  split at h
  · next found =>
    cases h
    exact Decimal.value_of_powerOfTen? found
  · simp at h

theorem scaleFor_nonneg {precision : Nat} {scale : Decimal} (h : scaleOf precision = .ok scale)
    {isDecimal : Bool} : ∀ s ∈ Series.scaleFor isDecimal scale, 0 ≤ s.value := by
  intro s hs
  cases isDecimal with
  | false => cases hs
  | true =>
    cases hs
    rw [value_of_scaleOf h]
    exact pow_nonneg (by norm_num) precision

theorem isDatetime_of_isNumber {declaredType : Text}
    (h : DeclaredType.isNumber declaredType = true) :
    DeclaredType.isDatetime declaredType = false := by
  rw [DeclaredType.isDatetime, beq_eq_false_iff_ne]
  intro date
  rw [DeclaredType.isNumber, DeclaredType.isDecimal, date] at h
  exact absurd h (by decide)

theorem timePattern_of_isNumber {t : Transformer}
    (made : patternOf t.time.declaredType = .ok t.timePattern)
    (h : DeclaredType.isNumber t.time.declaredType = true) : t.timePattern = none := by
  rw [patternOf, isDatetime_of_isNumber h] at made
  exact (Except.ok.inj made).symm

/-! ## Accounts -/

/-- How a record came to its line. -/
structure Account (t : Transformer) (counter : Nat) (record : Text) (done : Transformed) where
  points : List (List Text)
  raw : Axes
  time : Series
  columns : Dimension → List Text
  id : Text
  points_eq : t.points (splitValues t.format record) = .ok points
  raw_eq : t.rawAxes points = .ok raw
  time_eq : raw.time.repaired = .ok time
  columns_eq : ∀ d, ((⟨raw.x, raw.y, time⟩ : Axes).series d).compressed t.scale = .ok (columns d)
  sample_eq :
    Statistics.Sample.ofDelta raw.x.column raw.y.column time.column = .ok done.sample
  id_eq : (t.resolveId (splitValues t.format record) counter).1 = .ok id
  line_eq : done.line = Text.join ";" (id
    :: Text.join "," (t.coordinateFields points (columns .x) (columns .y) (columns .time))
    :: t.furtherFields (splitValues t.format record))

section Accepted
variable {t : Transformer} {counter : Nat} {record : Text} {done : Transformed} {values : List Text}

/-- An axis of numbers is read as the numbers that its items spell. -/
theorem Account.raw_numeric (a : t.Account counter record done)
    (made : patternOf t.time.declaredType = .ok t.timePattern)
    (d : Dimension) (isNumber : DeclaredType.isNumber (t.axis d).declaredType = true) :
    ∃ parsed, (column (t.axis d) a.points).mapM Series.number = .ok parsed
      ∧ .numeric parsed (DeclaredType.isDelta (t.axis d).declaredType)
          (DeclaredType.isDecimal (t.axis d).declaredType) = a.raw.series d := by
  rw [← Series.ofItems_eq_ok isNumber]
  obtain ⟨hx, hy, htime⟩ := rawAxes_eq_ok.mp a.raw_eq
  cases d with
  | x => exact hx
  | y => exact hy
  | time =>
    rw [rawTime, timePattern_of_isNumber made isNumber] at htime
    exact htime

/-- The sample of an accepted record has the points of the record. -/
@[simp] theorem Account.length_sample (a : t.Account counter record done) :
    done.sample.points.length = a.points.length := by
  have reading := (rawAxes_eq_ok.mp a.raw_eq).2.2
  have rawLength : a.raw.time.length = (column t.time a.points).length := by
    unfold rawTime at reading
    split at reading
    · exact Series.length_ofDates reading
    · exact Series.length_ofItems reading
  rw [Statistics.Sample.length_points a.sample_eq, Series.length_values_column,
    Series.length_repaired a.time_eq, rawLength, column, List.length_map]

theorem points_eq_ok {points : List (List Text)} :
    t.points values = .ok points ↔
      ∃ text, t.format.coordinatesIndex?.bind (values[·]?) = some text
        ∧ splitItems t.coordinates text ≠ []
        ∧ (splitItems t.coordinates text).length % t.coordinates.attributes.length = 0
        ∧ groupsOf t.coordinates.attributes.length (splitItems t.coordinates text) = points := by
  unfold Transformer.points
  cases t.format.coordinatesIndex?.bind (values[·]?) with
  | none => simp [throw_ne_ok]
  | some text =>
    simp only [guarded_eq_ok, pure_eq_ok, List.isEmpty_iff, ne_eq, not_not, Option.some.injEq,
      exists_eq_left']

theorem points_ne_nil {points : List (List Text)} (h : t.points values = .ok points) :
    points ≠ [] := by
  obtain ⟨text, _, some_item, _, rfl⟩ := points_eq_ok.mp h
  cases items : splitItems t.coordinates text with
  | nil => exact absurd items some_item
  | cons item rest =>
    rw [groupsOf]
    exact List.cons_ne_nil _ _

theorem body_eq_ok {coordinates : Text} {sample : Statistics.Sample Float} :
    t.body values = .ok (coordinates, sample) ↔
      ∃ points axes xs ys times, t.points values = .ok points ∧ t.readAxes points = .ok axes
        ∧ axes.x.compressed t.scale = .ok xs ∧ axes.y.compressed t.scale = .ok ys
        ∧ axes.time.compressed t.scale = .ok times
        ∧ Statistics.Sample.ofDelta axes.x.column axes.y.column axes.time.column = .ok sample
        ∧ coordinates = Text.join "," (t.coordinateFields points xs ys times) := by
  simp only [body, bind_eq_ok, pure_eq_ok, mapError_eq_ok, Prod.mk.injEq]
  constructor
  · rintro ⟨points, hp, axes, ha, xs, hx, ys, hy, times, ht, s, hs, rfl, rfl⟩
    exact ⟨points, axes, xs, ys, times, hp, ha, hx, hy, ht, hs, rfl⟩
  · rintro ⟨points, axes, xs, ys, times, hp, ha, hx, hy, ht, hs, rfl⟩
    exact ⟨points, hp, axes, ha, xs, hx, ys, hy, times, ht, sample, hs, rfl, rfl⟩

theorem exists_account (accepted : (t.prepare counter record).1 = .ok done) :
    Nonempty (t.Account counter record done) := by
  unfold prepare at accepted
  cases hb : t.body (splitValues t.format record) with
  | error e => simp [hb] at accepted
  | ok read =>
    obtain ⟨coordinates, sample⟩ := read
    obtain ⟨points, axes, xs, ys, times, hp, ha, hx, hy, ht, hs, rfl⟩ := body_eq_ok.mp hb
    obtain ⟨raw, time, hraw, htime, rfl⟩ := readAxes_eq_ok.mp ha
    simp only [hb, map_eq_ok] at accepted
    obtain ⟨id, hid, rfl⟩ := accepted
    refine ⟨⟨points, raw, time, fun | .x => xs | .y => ys | .time => times, id, hp, hraw, htime, ?_,
      hs, hid, rfl⟩⟩
    rintro (_ | _ | _)
    · exact hx
    · exact hy
    · exact ht

end Accepted

end Transformer

end TrajectoryFormat.Record
