import TrajectoryFormat.Proofs.FormatOfLines
import TrajectoryFormat.Proofs.LineFields
import TrajectoryFormat.Record.Session

/-!
# Refused records, by cause

Why a record may be refused, whatever its format was built from: its coordinates have no items, or
do not fill their points, an item is no number or no date, or a number leaves its range. A record
that is accepted has a sample of the points that its items fill.
-/

namespace TrajectoryFormat

open Checked Description

/-- The coordinates array of a format is declared by one of its attributes. -/
theorem DataFormat.exists_coordinatesIndex {tokens : List Token} {array : ArrayFormat}
    (declared : (ofTokens tokens).coordinates = some array) :
    ∃ i, (ofTokens tokens).coordinatesIndex? = some i
      ∧ i < (ofTokens tokens).attributes.length := by
  rw [ofTokens_eq] at declared ⊢
  obtain ⟨declaredType, first, _⟩ := Option.map_eq_some_iff.mp declared
  obtain ⟨line, mem, given⟩ := List.exists_of_findSome?_eq_some first
  obtain ⟨a, written, given⟩ := Option.bind_eq_some_iff.mp given
  have named : a.name = Keyword.coordinates.name := by
    by_contra other
    simp [other] at given
  have added : a ∈ (readOff (declarationLines tokens)).attributes :=
    List.mem_filterMap.mpr ⟨line, mem, attribute?_of_declared? written⟩
  have place : (position? (readOff (declarationLines tokens)).attributes [.coordinates]).isSome
      = true :=
    position?_isSome.mpr ⟨a, added, _, List.mem_singleton_self _, named⟩
  obtain ⟨i, here⟩ := Option.isSome_iff_exists.mp place
  exact ⟨i, here, position?_lt here⟩

namespace Record

/-! ## Refusals of a series -/

namespace Series

theorem number_eq_error {item : Text} {e : RecordError} (failed : number item = .error e) :
    Decimal.readNumber? item = none ∧ e = .invalidNumber item := by
  unfold number at failed
  split at failed
  · cases failed
  · next unread =>
    cases failed
    exact ⟨unread, rfl⟩

theorem ofItems_eq_error {declaredType : Text} {items : List Text} {e : RecordError}
    (failed : ofItems declaredType items = .error e) :
    ∃ item ∈ items, Decimal.readNumber? item = none ∧ e = .invalidNumber item := by
  unfold ofItems at failed
  split at failed
  · rcases bind_eq_error.mp failed with failed | ⟨values, _, done⟩
    · obtain ⟨item, mem, unread⟩ := exists_of_mapM_eq_error failed
      exact ⟨item, mem, number_eq_error unread⟩
    · exact absurd done pure_ne_error
  · cases failed

theorem instant_eq_error {pattern : DatePattern} {item : Text} {e : RecordError}
    (failed : instant pattern item = .error e) :
    (∃ error, pattern.epochMillis item = .error error ∧ e = .invalidDate error)
      ∨ e = .overflow item := by
  rcases bind_eq_error.mp failed with failed | ⟨millis, _, failed⟩
  · obtain ⟨error, unread, rfl⟩ := mapError_eq_error.mp failed
    exact .inl ⟨error, unread, rfl⟩
  · split at failed
    · exact absurd failed pure_ne_error
    · exact .inr (throw_eq_error.mp failed).symm

theorem ofDates_eq_error {pattern : DatePattern} {items : List Text} {e : RecordError}
    (failed : ofDates pattern items = .error e) : ∃ item ∈ items,
      (∃ error, pattern.epochMillis item = .error error ∧ e = .invalidDate error)
        ∨ e = .overflow item := by
  rcases bind_eq_error.mp failed with failed | ⟨values, _, done⟩
  · obtain ⟨item, mem, unread⟩ := exists_of_mapM_eq_error failed
    exact ⟨item, mem, instant_eq_error unread⟩
  · exact absurd done pure_ne_error

theorem repaired_eq_error {s : Series} {e : RecordError} (failed : s.repaired = .error e) :
    ∃ value, e = .overflow value := by
  unfold repaired at failed
  split at failed
  · cases failed
  · rcases bind_eq_error.mp failed with failed | ⟨absolute, _, done⟩
    · obtain ⟨values, _, rfl⟩ := mapError_eq_error.mp failed
      exact ⟨_, rfl⟩
    · exact absurd done pure_ne_error
  · cases failed

theorem whole_eq_error {scale? : Option Decimal} {v : Decimal} {e : RecordError}
    (failed : whole scale? v = .error e) : e = .overflow v.render := by
  have cut : ∀ s : Decimal,
      (if Number.FitsInt64 s.toInt then pure s.toInt else throw (.overflow v.render) :
        Except RecordError Int) = .error e → e = .overflow v.render := by
    intro s failed
    split at failed
    · exact absurd failed pure_ne_error
    · exact (throw_eq_error.mp failed).symm
  unfold whole at failed
  cases scale? with
  | none => exact cut v failed
  | some scale =>
    cases product : v.mul? scale with
    | some scaled =>
      simp only [product, pure_bind] at failed
      exact cut scaled failed
    | none =>
      simp only [product, bind_eq_error, throw_eq_error, throw_ne_ok, false_and, exists_false,
        or_false] at failed
      exact failed.symm

theorem compressed_eq_error {scale : Decimal} {s : Series} {e : RecordError}
    (failed : s.compressed scale = .error e) : ∃ value, e = .overflow value := by
  have written : ∀ (scale? : Option Decimal) (coded : List Decimal),
      (do let written ← coded.mapM (whole scale?)
          pure (written.map Number.ofInt) : Except RecordError (List Text)) = .error e →
        ∃ value, e = .overflow value := by
    intro scale? coded failed
    rcases bind_eq_error.mp failed with failed | ⟨_, _, done⟩
    · obtain ⟨v, _, failed⟩ := exists_of_mapM_eq_error failed
      exact ⟨_, whole_eq_error failed⟩
    · exact absurd done pure_ne_error
  unfold compressed at failed
  cases s with
  | text values => cases failed
  | numeric values isDelta isDecimal =>
    simp only at failed
    split at failed
    · exact written _ _ failed
    · split at failed
      · exact written _ _ failed
      · simp only [bind_eq_error, throw_eq_error, throw_ne_ok, false_and, exists_false,
          or_false] at failed
        exact ⟨_, failed.symm⟩

end Series

/-! ## Points -/

theorem length_groupsOf {size : Nat} (positive : 0 < size) {items : List Text}
    (whole : items.length % size = 0) : (groupsOf size items).length = items.length / size := by
  have sizes : (groupsOf size items).map List.length
      = List.replicate (groupsOf size items).length size := by
    rw [List.eq_replicate_iff]
    simpa using length_of_mem_groupsOf positive whole
  have total : items.length = (groupsOf size items).length * size := by
    calc items.length = (groupsOf size items).flatten.length := by rw [flatten_groupsOf]
      _ = (groupsOf size items).length * size := by
        rw [List.length_flatten, sizes, List.sum_replicate_nat]
  rw [total, Nat.mul_div_cancel _ positive]

namespace Transformer

variable {f : DataFormat} {shape : OutputShape} {t : Transformer} {tokens : List Token}
variable {counter : Nat} {record : Text} {items : List Text}

/-- The items of the coordinates of a record. -/
def items? (t : Transformer) (record : Text) : Option (List Text) :=
  (t.format.coordinatesIndex?.bind ((splitValues t.format record)[·]?)).map
    (splitItems t.coordinates)

def arity (t : Transformer) : Nat := t.coordinates.attributes.length

/-- Why a record with these items is refused. -/
inductive Refusal (t : Transformer) (items : List Text) : RecordError → Prop
  | noItems (none : items = []) : Refusal t items .emptyCoordinates
  | uneven (left : items.length % t.arity ≠ 0) :
      Refusal t items (.arityMismatch items.length t.arity)
  | noNumber {item : Text} (shown : item ∈ items) (unread : Decimal.readNumber? item = none) :
      Refusal t items (.invalidNumber item)
  | noDate {pattern : DatePattern} {item : Text} {error : DateValueError}
      (dated : t.timePattern = some pattern) (shown : item ∈ items)
      (unread : pattern.epochMillis item = .error error) : Refusal t items (.invalidDate error)
  | outOfRange (value : Text) : Refusal t items (.overflow value)

/-- An axis is one of the attributes of the coordinates array. -/
theorem index_lt_arity (made : ofFormat f shape = .ok t) (d : Dimension) :
    (t.axis d).index < t.arity :=
  position?_lt (axis_eq made d).1

theorem arity_pos (made : ofFormat f shape = .ok t) : 0 < t.arity :=
  Nat.zero_lt_of_lt (index_lt_arity made .x)

/-- Every record has items of coordinates, if not one. -/
theorem exists_items (made : ofFormat (DataFormat.ofTokens tokens) shape = .ok t) (record : Text) :
    ∃ items, t.items? record = some items := by
  obtain ⟨declared, format, _⟩ := ofFormat_eq_ok.mp made
  obtain ⟨i, place, bound⟩ := DataFormat.exists_coordinatesIndex declared
  rw [← length_splitValues _ record] at bound
  exact ⟨_, by
    rw [items?, format, place, Option.bind_some, List.getElem?_eq_getElem bound, Option.map_some]⟩

theorem points_eq_error (shown : t.items? record = some items) {e : RecordError}
    (failed : t.points (splitValues t.format record) = .error e) : t.Refusal items e := by
  obtain ⟨text, value, rfl⟩ := Option.map_eq_some_iff.mp shown
  unfold Transformer.points at failed
  simp only [value, guarded_eq_error, pure_ne_error, and_false, or_false,
    List.isEmpty_iff] at failed
  rcases failed with ⟨none, rfl⟩ | ⟨_, left, rfl⟩
  · exact .noItems none
  · exact .uneven left

/-- The points of a record hold its items, as many for each as the array has attributes. -/
structure PointsOf (t : Transformer) (items : List Text) (points : List (List Text)) : Prop where
  some_point : points ≠ []
  even : items.length % t.arity = 0
  length_eq : points.length = items.length / t.arity
  sizes : ∀ point ∈ points, point.length = t.arity
  subset : ∀ point ∈ points, point ⊆ items

theorem pointsOf_of_points (made : ofFormat f shape = .ok t) (shown : t.items? record = some items)
    {points : List (List Text)} (reached : t.points (splitValues t.format record) = .ok points) :
    t.PointsOf items points := by
  have some_point := points_ne_nil reached
  obtain ⟨text, value, _, even, rfl⟩ := points_eq_ok.mp reached
  rw [items?, value, Option.map_some, Option.some.injEq] at shown
  subst shown
  exact ⟨some_point, even, length_groupsOf (arity_pos made) even,
    length_of_mem_groupsOf (arity_pos made) even, subset_groupsOf _ _⟩

section Points
variable {points : List (List Text)}

/-- What stands in the column of an axis are items of the record. -/
theorem PointsOf.column_subset (h : t.PointsOf items points) (made : ofFormat f shape = .ok t)
    (d : Dimension) : column (t.axis d) points ⊆ items := by
  intro item mem
  obtain ⟨point, inside, rfl⟩ := List.mem_map.mp mem
  have bound : (t.axis d).index < point.length := h.sizes point inside ▸ index_lt_arity made d
  rw [List.getElem?_eq_getElem bound, Option.getD_some]
  exact h.subset point inside (List.getElem_mem bound)

theorem rawTime_eq_error (h : t.PointsOf items points) (made : ofFormat f shape = .ok t)
    {e : RecordError} (failed : t.rawTime points = .error e) : t.Refusal items e := by
  unfold rawTime at failed
  split at failed
  · next pattern dated =>
    obtain ⟨item, mem, ⟨error, unread, rfl⟩ | rfl⟩ := Series.ofDates_eq_error failed
    · exact .noDate dated (h.column_subset made .time mem) unread
    · exact .outOfRange item
  · obtain ⟨item, mem, unread, rfl⟩ := Series.ofItems_eq_error failed
    exact .noNumber (h.column_subset made .time mem) unread

theorem readAxes_eq_error (h : t.PointsOf items points) (made : ofFormat f shape = .ok t)
    {e : RecordError} (failed : t.readAxes points = .error e) : t.Refusal items e := by
  have inSpace : ∀ d, Series.ofItems (t.axis d).declaredType (column (t.axis d) points) = .error e →
      t.Refusal items e := by
    intro d failed
    obtain ⟨item, mem, unread, rfl⟩ := Series.ofItems_eq_error failed
    exact .noNumber (h.column_subset made d mem) unread
  simp only [readAxes_eq, rawAxes, bind_assoc, pure_bind] at failed
  rcases bind_eq_error.mp failed with failed | ⟨x, _, failed⟩
  · exact inSpace .x failed
  rcases bind_eq_error.mp failed with failed | ⟨y, _, failed⟩
  · exact inSpace .y failed
  rcases bind_eq_error.mp failed with failed | ⟨time, _, failed⟩
  · exact rawTime_eq_error h made failed
  rcases bind_eq_error.mp failed with failed | ⟨_, _, done⟩
  · obtain ⟨value, rfl⟩ := Series.repaired_eq_error failed
    exact .outOfRange value
  · exact absurd done pure_ne_error

/-- Every axis that is read has a value for each point. -/
theorem length_readAxes {axes : Axes} (read : t.readAxes points = .ok axes) (d : Dimension) :
    (axes.series d).length = points.length := by
  obtain ⟨raw, time, reading, repairing, rfl⟩ := readAxes_eq_ok.mp read
  obtain ⟨hx, hy, htime⟩ := rawAxes_eq_ok.mp reading
  have columnLength : ∀ axis : Axis, (column axis points).length = points.length := fun axis => by
    rw [column, List.length_map]
  cases d with
  | x => exact (Series.length_ofItems hx).trans (columnLength t.x)
  | y => exact (Series.length_ofItems hy).trans (columnLength t.y)
  | time =>
    refine (Series.length_repaired repairing).trans ?_
    unfold rawTime at htime
    split at htime
    · exact (Series.length_ofDates htime).trans (columnLength t.time)
    · exact (Series.length_ofItems htime).trans (columnLength t.time)

end Points

/-- A record that fails before its ID fails for one of the causes. -/
theorem body_eq_error (made : ofFormat f shape = .ok t) (shown : t.items? record = some items)
    {e : RecordError} (failed : t.body (splitValues t.format record) = .error e) :
    t.Refusal items e := by
  have written : ∀ s : Series, s.compressed t.scale = .error e → t.Refusal items e := by
    intro s failed
    obtain ⟨value, rfl⟩ := Series.compressed_eq_error failed
    exact .outOfRange value
  unfold body at failed
  rcases bind_eq_error.mp failed with failed | ⟨points, reached, failed⟩
  · exact points_eq_error shown failed
  have held := pointsOf_of_points made shown reached
  rcases bind_eq_error.mp failed with failed | ⟨axes, read, failed⟩
  · exact readAxes_eq_error held made failed
  rcases bind_eq_error.mp failed with failed | ⟨xs, _, failed⟩
  · exact written _ failed
  rcases bind_eq_error.mp failed with failed | ⟨ys, _, failed⟩
  · exact written _ failed
  rcases bind_eq_error.mp failed with failed | ⟨times, _, failed⟩
  · exact written _ failed
  rcases bind_eq_error.mp failed with failed | ⟨sample, _, done⟩
  · -- the three columns are equally long and not empty, so a sample is always made
    have lengths := length_readAxes read
    obtain ⟨sample, sampled⟩ : ∃ sample,
        Statistics.Sample.ofDelta axes.x.column axes.y.column axes.time.column = .ok sample := by
      apply Statistics.Sample.exists_ofDelta
      · rw [← List.length_pos_iff, Series.length_values_column]
        exact (lengths .x).symm ▸ List.length_pos_iff.mpr held.some_point
      · rw [Series.length_values_column, Series.length_values_column]
        exact (lengths .y).trans (lengths .x).symm
      · rw [Series.length_values_column, Series.length_values_column]
        exact (lengths .time).trans (lengths .x).symm
    obtain ⟨error, refused, _⟩ := mapError_eq_error.mp failed
    rw [sampled] at refused
    cases refused
  · exact absurd done pure_ne_error

theorem generatedId_eq_error {idPrefix : Text} {n : Nat} {e : RecordError}
    (failed : generatedId idPrefix n = .error e) : ∃ value, e = .overflow value := by
  unfold generatedId at failed
  split at failed
  · split at failed
    · cases failed
    · cases failed
      exact ⟨_, rfl⟩
  · cases failed

/-- A record fails for one of the causes, before its ID or at its ID. -/
theorem prepare_eq_error (made : ofFormat f shape = .ok t) (shown : t.items? record = some items)
    {e : RecordError} (failed : (t.prepare counter record).1 = .error e) : t.Refusal items e := by
  unfold prepare at failed
  cases before : t.body (splitValues t.format record) with
  | error e' =>
    simp only [before, Except.error.injEq] at failed
    exact body_eq_error made shown (failed ▸ before)
  | ok read =>
    simp only [before, map_eq_error, resolveId] at failed
    split at failed
    · obtain ⟨value, rfl⟩ := generatedId_eq_error failed
      exact .outOfRange value
    · cases failed

end Transformer

end Record

end TrajectoryFormat
