import TrajectoryFormat.Proofs.AcceptedDescription
import TrajectoryFormat.Proofs.CanonicalReader
import TrajectoryFormat.Proofs.TimeRepair

/-!
# Canonical lines are fixed

What a record of space and time is written as is a canonical line: three columns of 64-bit numerals,
equally long, times not going back. So the canonical reader turns the line into itself.
-/

namespace TrajectoryFormat.Record.Transformer

open Checked Description Number

variable {description : Text} {f : DataFormat} {shape : OutputShape} {t : Transformer}
  {counter : Nat} {record : Text} {done : Transformed}

/-- Axes of a numeric type or of a date type. -/
def Measured (t : Transformer) : Prop :=
  ∀ d, DeclaredType.isNumber (t.axis d).declaredType = true
    ∨ DeclaredType.isDatetime (t.axis d).declaredType = true

theorem axis?_eq_some {array : ArrayFormat} {names : List Keyword} {axis : Axis}
    (h : axis? array (position? array.attributes names) = some axis) :
    ∃ a ∈ array.attributes, a.declaredType = axis.declaredType ∧ ∃ k ∈ names, a.name = k.name := by
  simp only [axis?, Option.bind_eq_bind, Option.bind_eq_some_iff, Option.pure_def,
    Option.some.injEq] at h
  obtain ⟨i, found, a, here, rfl⟩ := h
  obtain ⟨inside, named, _⟩ := List.findIdx?_eq_some_iff_getElem.mp found
  obtain ⟨_, rfl⟩ := List.getElem?_eq_some_iff.mp here
  obtain ⟨k, mem, name⟩ := List.any_eq_true.mp named
  exact ⟨_, List.getElem_mem inside, rfl, k, mem, beq_iff_eq.mp name⟩

/-- The axes in space of an accepted description have numbers. -/
theorem isNumber_of_space (compiled : (compile description).result = .ok f)
    (made : ofFormat f shape = .ok t) (measured : t.Measured) {d : Dimension} (space : d ≠ .time) :
    DeclaredType.isNumber (t.axis d).declaredType = true := by
  obtain ⟨coordinates, _, _, hx, hy, _, _, _⟩ := ofFormat_eq_ok.mp made
  have noDate {a : Axis} {names : List Keyword}
      (found : axis? t.coordinates (position? t.coordinates.attributes names) = some a)
      (spaces : ∀ k ∈ names, k ∈ [Keyword.x, .y, .lon, .lat]) :
      DeclaredType.isDatetime a.declaredType = false := by
    obtain ⟨declared, mem, declaredType, k, named, name⟩ := axis?_eq_some found
    rw [← declaredType]
    exact isDatetime_of_allowed (allowed_of_compile compiled coordinates _ mem) name
      (spaces k named)
  apply (measured d).resolve_right
  cases d with
  | x => exact Bool.eq_false_iff.mp (noDate hx (by decide))
  | y => exact Bool.eq_false_iff.mp (noDate hy (by decide))
  | time => exact absurd rfl space

theorem numerals_of_numeric {scale : Decimal} {values : List Decimal} {isDelta isDecimal : Bool}
    {texts : List Text}
    (h : (Series.numeric values isDelta isDecimal).compressed scale = .ok texts) :
    ∃ written : List Int, texts = written.map ofInt ∧ written.length = values.length
      ∧ ∀ n ∈ written, FitsInt64 n := by
  obtain ⟨coded, coding, written, wholes, rfl⟩ := Series.compressed_numeric_eq_ok.mp h
  refine ⟨written, rfl, ?_, Series.fitsInt64_of_whole wholes⟩
  rw [← wholes.length_eq, Series.length_coded? coding]

theorem Account.numerals_of_space (a : t.Account counter record done)
    (pattern : patternOf t.time.declaredType = .ok t.timePattern) {d : Dimension}
    (space : d ≠ .time) (isNumber : DeclaredType.isNumber (t.axis d).declaredType = true) :
    ∃ written : List Int, a.columns d = written.map ofInt ∧ written.length = a.points.length
      ∧ ∀ n ∈ written, FitsInt64 n := by
  obtain ⟨parsed, reading, series⟩ := a.raw_numeric pattern d isNumber
  have kept : (⟨a.raw.x, a.raw.y, a.time⟩ : Axes).series d = a.raw.series d := by
    cases d <;> first | rfl | exact absurd rfl space
  have columns := a.columns_eq d
  rw [kept, ← series] at columns
  obtain ⟨written, texts, length, fits⟩ := numerals_of_numeric columns
  refine ⟨written, texts, ?_, fits⟩
  rw [length, ← (mapM_eq_ok.mp reading).length_eq, column, List.length_map]

/-- The columns of an accepted record of numbers and dates are those of a canonical line. -/
theorem Account.canonical (a : t.Account counter record done)
    (compiled : (compile description).result = .ok f) (made : ofFormat f shape = .ok t)
    (measured : t.Measured) (short : done.sample.points.length < 2 ^ 32) :
    ∃ xs ys times : List Int, Canonical xs ys times ∧ xs.length = a.points.length
      ∧ a.columns .x = xs.map ofInt ∧ a.columns .y = ys.map ofInt
      ∧ a.columns .time = times.map ofInt := by
  obtain ⟨_, _, _, _, _, _, pattern, scaling⟩ := ofFormat_eq_ok.mp made
  obtain ⟨xs, xTexts, xLength, xFits⟩ := a.numerals_of_space pattern (d := .x) nofun
    (isNumber_of_space compiled made measured nofun)
  obtain ⟨ys, yTexts, yLength, yFits⟩ := a.numerals_of_space pattern (d := .y) nofun
    (isNumber_of_space compiled made measured nofun)
  obtain ⟨raw, isDecimal, reading, time⟩ := a.time_monotonic pattern (measured .time)
  have columns := a.columns_eq .time
  have rawLength := length_absoluteTimes reading
  simp only [Axes.series, time] at columns
  obtain ⟨coded, coding, times, wholes, texts⟩ := Series.compressed_numeric_eq_ok.mp columns
  have timeLength : times.length = a.points.length := by
    rw [← wholes.length_eq, Series.length_coded? coding, Series.length_monotonic, rawLength]
  refine ⟨xs, ys, times, ?_, xLength, xTexts, yTexts, texts.symm⟩
  exact
    { some_point := by
        rw [← List.length_pos_iff, xLength, List.length_pos_iff]
        exact points_ne_nil a.points_eq
      short := by rw [xLength, ← a.length_sample]; exact short
      y_length := by rw [yLength, xLength]
      time_length := by rw [timeLength, xLength]
      x_fits := xFits
      y_fits := yFits
      time_fits := Series.fitsInt64_of_whole wholes
      steps := Series.tailNonneg_of_climbs (scaleFor_nonneg scaling) (Series.climbs_monotonic raw)
        coding wholes }

/-- The line of an accepted record of space and time is read back into itself. -/
theorem canonical_line_fixed (compiled : (compile description).result = .ok f)
    (made : ofFormat f .spatialTemporal = .ok t) (measured : t.Measured)
    (accepted : (t.prepare counter record).1 = .ok done)
    (short : done.sample.points.length < 2 ^ 32) {id : Text}
    (identified : (t.resolveId (splitValues t.format record) counter).1 = .ok id)
    (plain : ';' ∉ id) :
    ∃ g reader, (compile canonicalDescription).result = .ok g
      ∧ ofFormat g g.outputShape = .ok reader ∧ reader.shape = .spatialTemporal
      ∧ ∀ c, ∃ sample, reader.prepare c done.line = (.ok ⟨done.line, sample⟩, c) := by
  obtain ⟨a⟩ := exists_account accepted
  obtain ⟨xs, ys, times, canonical, points, xTexts, yTexts, timeTexts⟩ :=
    a.canonical compiled made measured short
  obtain ⟨_, _, spatialTemporal, _⟩ := ofFormat_eq_ok.mp made
  have line : done.line = canonicalLine id (numeralRows xs ys times) := by
    have sameId : a.id = id := Except.ok.inj (a.id_eq.symm.trans identified)
    have fields : t.coordinateFields a.points (xs.map ofInt) (ys.map ofInt) (times.map ofInt)
        = (numeralRows xs ys times).flatten :=
      coordinateFields_spatialTemporal spatialTemporal (by rw [List.length_map, points])
        (by simp only [List.length_map, canonical.y_length])
        (by simp only [List.length_map, canonical.time_length])
    rw [a.line_eq, sameId, xTexts, yTexts, timeTexts, fields, furtherFields, spatialTemporal]
    rfl
  refine ⟨canonicalFormat, canonicalReader, compile_canonicalDescription,
    ofFormat_canonicalFormat, rfl, ?_⟩
  intro c
  rw [line]
  exact prepare_canonicalLine canonical plain c

/-- A format with decimals in space and days as times. -/
def hikesDescription : Text :=
  Text.join "\n"
    ["_ID STRING ;",
      "_COORDINATES ARRAY(_X DECIMAL , _Y DELTADECIMAL , _TIME DATETIME[\"yyyy-MM-dd\"] ,) ;",
      "_OUTPUT_FORMAT SPATIAL_TEMPORAL"]

def hikesFormat : DataFormat :=
  let array := ArrayFormat.ofDeclaration
    "ARRAY(_X DECIMAL , _Y DELTADECIMAL , _TIME DATETIME[\"yyyy-MM-dd\"] ,)"
  { attributes := [.declared "_ID" "STRING" ";", .declared "_COORDINATES" array.declaration ";"]
    coordinates := some array
    outputShape := .spatialTemporal }

def hikes : Transformer :=
  { format := hikesFormat
    coordinates := ArrayFormat.ofDeclaration
      "ARRAY(_X DECIMAL , _Y DELTADECIMAL , _TIME DATETIME[\"yyyy-MM-dd\"] ,)"
    x := ⟨0, "DECIMAL"⟩
    y := ⟨1, "DELTADECIMAL"⟩
    time := ⟨2, "DATETIME[\"yyyy-MM-dd\"]"⟩
    timePattern := (DatePattern.compile "yyyy-MM-dd").toOption
    scale := (Decimal.powerOfTen? 5).getD .zero
    shape := .spatialTemporal }

def hike : Text := "a;1.5,0,2020-03-01,-2.25,1e-7,2020-02-29,2,-3.125,2020-03-02"

theorem canonical_line_fixed_hike :
    ∃ done, (compile hikesDescription).result = .ok hikesFormat
      ∧ ofFormat hikesFormat .spatialTemporal = .ok hikes ∧ hikes.Measured
      ∧ (hikes.prepare 0 hike).1 = .ok done ∧ done.sample.points.length < 2 ^ 32
      ∧ (hikes.resolveId (splitValues hikes.format hike) 0).1 = .ok "a" ∧ ';' ∉ ("a" : Text)
      ∧ ∃ g reader, (compile canonicalDescription).result = .ok g
        ∧ ofFormat g g.outputShape = .ok reader ∧ reader.shape = .spatialTemporal
        ∧ ∀ c, ∃ sample, reader.prepare c done.line = (.ok ⟨done.line, sample⟩, c) := by
  have compiled : (compile hikesDescription).result = .ok hikesFormat := by decide +kernel
  have made : ofFormat hikesFormat .spatialTemporal = .ok hikes := by
    refine ofFormat_eq_ok.mpr ⟨rfl, rfl, rfl, ?_, ?_, ?_, ?_, ?_⟩ <;> decide +kernel
  have measured : hikes.Measured := by
    rintro (_ | _ | _) <;> decide +kernel
  have identified : (hikes.resolveId (splitValues hikes.format hike) 0).1 = .ok "a" := by
    decide +kernel
  obtain ⟨done, accepted⟩ : ∃ done, (hikes.prepare 0 hike).1 = .ok done :=
    exists_of_isOk (by decide +kernel)
  have short : done.sample.points.length < 2 ^ 32 := by
    obtain ⟨a⟩ := exists_account accepted
    have three : (hikes.points (splitValues hikes.format hike)).map List.length = .ok 3 := by
      decide +kernel
    rw [a.points_eq] at three
    rw [a.length_sample, Except.ok.inj three]
    decide
  have plain : ';' ∉ ("a" : Text) := by decide
  exact ⟨done, compiled, made, measured, accepted, short, identified, plain,
    canonical_line_fixed compiled made measured accepted short identified plain⟩

end TrajectoryFormat.Record.Transformer
