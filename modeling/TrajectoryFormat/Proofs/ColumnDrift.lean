import TrajectoryFormat.Proofs.ExactColumn
import TrajectoryFormat.Proofs.LineFields

/-!
# How far a written column drifts

A column is coded before its places are cut off, so every written difference may lose up to one.
Where no operation rounds, the running sums of the written column are within one for each point from
the scaled numbers of the axis, and they are these numbers exactly where the items of the axis scale
to whole ones.
-/

namespace TrajectoryFormat.Record

open Decimal Checked

namespace Series

/-- A number that scales to an integer. -/
def ScalesToWhole (scale q : ℚ) : Prop := ∃ n : ℤ, q * scale = n

theorem scalesToWhole_add {scale : ℚ} (p q : ℚ) (hp : ScalesToWhole scale p)
    (hq : ScalesToWhole scale q) : ScalesToWhole scale (p + q) := by
  obtain ⟨m, hm⟩ := hp
  obtain ⟨n, hn⟩ := hq
  exact ⟨m + n, by rw [add_mul, hm, hn, Int.cast_add]⟩

theorem scalesToWhole_sub {scale : ℚ} (p q : ℚ) (hp : ScalesToWhole scale p)
    (hq : ScalesToWhole scale q) : ScalesToWhole scale (p - q) := by
  obtain ⟨m, hm⟩ := hp
  obtain ⟨n, hn⟩ := hq
  exact ⟨m - n, by rw [sub_mul, hm, hn, Int.cast_sub]⟩

@[simp] theorem length_absolute (isDelta : Bool) (numbers : List ℚ) :
    (absolute isDelta numbers).length = numbers.length := by
  cases isDelta with
  | false => rfl
  | true => exact Delta.length_decode _ numbers

theorem scalesToWhole_absolute {scale : ℚ} {isDelta : Bool} {numbers : List ℚ}
    (h : ∀ q ∈ numbers, ScalesToWhole scale q) :
    ∀ q ∈ absolute isDelta numbers, ScalesToWhole scale q := by
  cases isDelta with
  | false => exact h
  | true => exact Delta.forall_mem_decode scalesToWhole_add h

variable {scale : Decimal} {values coded : List Decimal} {isDelta isDecimal : Bool}

theorem written_near {written : List Int}
    (exact : ∀ v ∈ coded, ∀ s, scaled? (scaleFor isDecimal scale) v = some s →
      s.value = v.value * factor isDecimal scale)
    (hw : List.Forall₂ (fun v n => whole (scaleFor isDecimal scale) v = .ok n) coded written) :
    List.Forall₂ (Delta.Near (factor isDecimal scale)) (written.map fun n : ℤ => (n : ℚ))
      (coded.map value) := by
  induction hw with
  | nil => exact .nil
  | cons hn _ ih =>
    rw [List.forall_mem_cons] at exact
    obtain ⟨s, hs, _, rfl⟩ := whole_eq_ok.mp hn
    refine .cons ?_ (ih exact.2)
    rw [Delta.Near, ← exact.1 s hs]
    exact toInt_error s

/-- A difference that scales to a whole number is written as this number. -/
theorem written_exact {written : List Int}
    (exact : ∀ v ∈ coded, ∀ s, scaled? (scaleFor isDecimal scale) v = some s →
      s.value = v.value * factor isDecimal scale)
    (hw : List.Forall₂ (fun v n => whole (scaleFor isDecimal scale) v = .ok n) coded written)
    (wholes : ∀ v ∈ coded, ScalesToWhole (factor isDecimal scale) v.value) :
    written.map (fun n : ℤ => (n : ℚ)) = (coded.map value).map (· * factor isDecimal scale) := by
  induction hw with
  | nil => rfl
  | cons hn _ ih =>
    rw [List.forall_mem_cons] at exact wholes
    obtain ⟨s, hs, _, rfl⟩ := whole_eq_ok.mp hn
    obtain ⟨n, hn⟩ := wholes.1
    have scaled : s.value = n := (exact.1 s hs).trans hn
    simp only [List.map_cons, ih exact.2 wholes.2, toInt_of_value scaled, hn]

theorem decode_cast (written : List Int) :
    (Delta.decode (· + ·) written).map (fun n : ℤ => (n : ℚ))
      = Delta.decode (· + ·) (written.map fun n : ℤ => (n : ℚ)) :=
  Delta.map_decode Int.cast_add written

theorem decode_scaled (scale : ℚ) (numbers : List ℚ) :
    (Delta.decode (· + ·) numbers).map (· * scale)
      = Delta.decode (· + ·) (numbers.map (· * scale)) :=
  Delta.map_decode (fun a b => add_mul a b scale) numbers

/-- The running sums of the written numbers stay within one for each point of the scaled numbers. -/
theorem compressed_drift
    (exact : ∀ o ∈ (numeric values isDelta isDecimal).writingOperations scale, o.IsExact)
    (coding : coded? isDelta values = some coded) {written : List Int}
    (hw : List.Forall₂ (fun v n => whole (scaleFor isDecimal scale) v = .ok n) coded written)
    {k : Nat} {e : ℤ} {a : ℚ} (he : (Delta.decode (· + ·) written)[k]? = some e)
    (ha : (absolute isDelta (values.map value))[k]? = some a) :
    |(e : ℚ) - a * factor isDecimal scale| < k + 1 := by
  rw [← exact_coded exact coding] at ha
  refine Delta.decode_drift (written_near (exact_scaled exact coding) hw) ?_ ha
  rw [← decode_cast, List.getElem?_map, he, Option.map_some]

theorem compressed_exact
    (exact : ∀ o ∈ (numeric values isDelta isDecimal).writingOperations scale, o.IsExact)
    (coding : coded? isDelta values = some coded) {written : List Int}
    (hw : List.Forall₂ (fun v n => whole (scaleFor isDecimal scale) v = .ok n) coded written)
    (wholes : ∀ v ∈ values, ScalesToWhole (factor isDecimal scale) v.value) :
    (Delta.decode (· + ·) written).map (fun n : ℤ => (n : ℚ))
      = (absolute isDelta (values.map value)).map (· * factor isDecimal scale) := by
  have codedWholes : ∀ v ∈ coded, ScalesToWhole (factor isDecimal scale) v.value := by
    rw [← List.forall_mem_map (f := value)]
    cases isDelta with
    | true =>
      cases coding
      exact List.forall_mem_map.mpr wholes
    | false =>
      simp only [writingOperations, Bool.false_eq_true, if_false, List.forall_mem_append] at exact
      rw [Delta.map_encode? coding (exact_differences exact.1)]
      exact Delta.forall_mem_encode scalesToWhole_sub (List.forall_mem_map.mpr wholes)
  rw [decode_cast, written_exact (exact_scaled exact coding) hw codedWholes, ← decode_scaled,
    exact_coded exact coding]

end Series

namespace Transformer

/-- The operations that a record is repaired and written with. -/
def operations (t : Transformer) (record : Text) : List Operation :=
  match t.points (splitValues t.format record) >>= t.rawAxes with
  | .error _ => []
  | .ok raw =>
    raw.x.writingOperations t.scale ++ raw.y.writingOperations t.scale ++ raw.time.repairOperations
      ++ raw.time.repaired.toOption.elim [] (·.writingOperations t.scale)

/-- The absolute numbers of an axis whose items are read as `parsed`: running sums where its type is
a delta type, and of times the greatest so far. -/
def absoluteNumbers (d : Dimension) (declaredType : Text) (parsed : List Decimal) : List ℚ :=
  let numbers := Series.absolute (DeclaredType.isDelta declaredType) (parsed.map value)
  match d with
  | .time => Series.runningMaximum numbers
  | _ => numbers

@[simp] theorem length_absoluteNumbers (d : Dimension) (declaredType : Text)
    (parsed : List Decimal) :
    (absoluteNumbers d declaredType parsed).length = parsed.length := by
  cases d <;>
    simp only [absoluteNumbers, Series.length_runningMaximum, Series.length_absolute,
      List.length_map]

/-- What the numbers of a type are multiplied by before they are written. -/
def factorOf (f : DataFormat) (declaredType : Text) : ℚ :=
  if DeclaredType.isDecimal declaredType then 10 ^ f.decimalPrecision else 1

theorem Account.operations_eq {t : Transformer} {counter : Nat} {record : Text} {done : Transformed}
    (a : t.Account counter record done) :
    t.operations record = a.raw.x.writingOperations t.scale ++ a.raw.y.writingOperations t.scale
      ++ a.raw.time.repairOperations ++ a.time.writingOperations t.scale := by
  simp only [operations, bind_eq_ok.mpr ⟨_, a.points_eq, a.raw_eq⟩, a.time_eq, Except.toOption,
    Option.elim]

/-- The column that a numeric axis is written from, and its absolute numbers. -/
theorem Account.written_series {t : Transformer} {counter : Nat} {record : Text}
    {done : Transformed} (a : t.Account counter record done)
    (made : patternOf t.time.declaredType = .ok t.timePattern)
    (exact : ∀ o ∈ t.operations record, o.IsExact) (d : Dimension)
    (isNumber : DeclaredType.isNumber (t.axis d).declaredType = true) :
    ∃ parsed values isDelta, (column (t.axis d) a.points).mapM Series.number = .ok parsed
      ∧ (⟨a.raw.x, a.raw.y, a.time⟩ : Axes).series d
          = .numeric values isDelta (DeclaredType.isDecimal (t.axis d).declaredType)
      ∧ (∀ o ∈ (Series.numeric values isDelta
          (DeclaredType.isDecimal (t.axis d).declaredType)).writingOperations t.scale, o.IsExact)
      ∧ Series.absolute isDelta (values.map Decimal.value)
          = absoluteNumbers d (t.axis d).declaredType parsed
      ∧ ∀ scale, (∀ v ∈ parsed, Series.ScalesToWhole scale v.value) →
          ∀ v ∈ values, Series.ScalesToWhole scale v.value := by
  obtain ⟨parsed, reading, series⟩ := a.raw_numeric made d isNumber
  simp only [a.operations_eq, List.forall_mem_append] at exact
  cases d with
  | x =>
    refine ⟨parsed, parsed, _, reading, series.symm, ?_, rfl, fun _ h => h⟩
    rw [series]
    exact exact.1.1.1
  | y =>
    refine ⟨parsed, parsed, _, reading, series.symm, ?_, rfl, fun _ h => h⟩
    rw [series]
    exact exact.1.1.2
  | time =>
    have repaired := a.time_eq
    have repairs := exact.1.2
    simp only [Axes.series] at series
    rw [← series] at repaired repairs
    obtain ⟨numbers, decoding, time⟩ := Series.repaired_numeric_eq_ok.mp repaired
    have climbed : (Series.monotonic numbers).map Decimal.value
        = absoluteNumbers .time t.time.declaredType parsed := by
      rw [Series.map_value_monotonic, Series.exact_decoded repairs decoding]
      rfl
    refine ⟨parsed, Series.monotonic numbers, false, reading, time.symm, ?_, climbed, ?_⟩
    · rw [time]
      exact exact.2
    · intro scale wholes
      rw [← List.forall_mem_map (f := Decimal.value), climbed]
      intro q hq
      exact Series.scalesToWhole_absolute (List.forall_mem_map.mpr wholes) q
        (Series.mem_of_mem_runningMaximum hq)

/-- The written numbers of an axis beside its absolute numbers, one of each for every point. They
stand in the line at the place of the axis, if the shape has it. Their running sums are never
further away than one for each point, and not at all where every item scales to a whole number. -/
structure Account.Follows {t : Transformer} {counter : Nat} {record : Text} {done : Transformed}
    (a : t.Account counter record done) (d : Dimension) (parsed : List Decimal) (written : List ℤ) :
    Prop where
  read : (column (t.axis d) a.points).mapM Series.number = .ok parsed
  shown : a.columns d = written.map Number.ofInt
  placed : ∀ {place}, (Dimension.ofShape t.shape)[place]? = some d → ∀ k < a.points.length,
    a.fields[k * t.pointColumns.length + place]? = written[k]?.map Number.ofInt
  written_length : written.length = a.points.length
  numbers_length : (absoluteNumbers d (t.axis d).declaredType parsed).length = a.points.length
  drift : ∀ (k : ℕ) (e : ℤ) (q : ℚ), (Delta.decode (· + ·) written)[k]? = some e →
    (absoluteNumbers d (t.axis d).declaredType parsed)[k]? = some q →
    |(e : ℚ) - q * factorOf t.format (t.axis d).declaredType| < k + 1
  lossless : (∀ v ∈ parsed, ∃ n : ℤ, v.value * factorOf t.format (t.axis d).declaredType = n) →
    (Delta.decode (· + ·) written).map (fun n : ℤ => (n : ℚ))
      = (absoluteNumbers d (t.axis d).declaredType parsed).map
          (· * factorOf t.format (t.axis d).declaredType)

/-- Where no operation on the numbers of a record rounds, what is written of a numeric axis follows
its absolute numbers. -/
theorem written_column_drift {f : DataFormat} {shape : OutputShape} {t : Transformer}
    {counter : Nat} {record : Text} {done : Transformed} (made : ofFormat f shape = .ok t)
    (accepted : (t.prepare counter record).1 = .ok done)
    (exact : ∀ o ∈ t.operations record, o.IsExact)
    (d : Dimension) (isNumber : DeclaredType.isNumber (t.axis d).declaredType = true) :
    ∃ (a : t.Account counter record done) (parsed : List Decimal) (written : List ℤ),
      a.Follows d parsed written := by
  obtain ⟨_, sameFormat, _, _, _, _, pattern, scaling⟩ := ofFormat_eq_ok.mp made
  obtain ⟨a⟩ := exists_account accepted
  obtain ⟨parsed, values, isDelta, reading, series, exactWriting, numbers, wholes⟩ :=
    a.written_series pattern exact d isNumber
  have columns := a.columns_eq d
  rw [series] at columns
  obtain ⟨coded, coding, written, hw, texts⟩ := Series.compressed_numeric_eq_ok.mp columns
  have factor : Series.factor (DeclaredType.isDecimal (t.axis d).declaredType) t.scale
      = factorOf t.format (t.axis d).declaredType := by
    rw [Series.factor, factorOf, value_of_scaleOf scaling, sameFormat]
  have parsedLength : parsed.length = a.points.length := by
    rw [← (mapM_eq_ok.mp reading).length_eq, column, List.length_map]
  have count : values.length = a.points.length := by
    rw [← parsedLength, ← length_absoluteNumbers d (t.axis d).declaredType parsed, ← numbers,
      Series.length_absolute, List.length_map]
  refine ⟨a, parsed, written, ?_⟩
  exact
    { read := reading
      shown := texts.symm
      placed := by
        intro place shown k bound
        rw [a.getElem?_fields made shown bound, ← texts, List.getElem?_map]
      written_length := by rw [← hw.length_eq, Series.length_coded? coding, count]
      numbers_length := by rw [length_absoluteNumbers, parsedLength]
      drift := by
        intro k e q he hq
        rw [← factor]
        exact Series.compressed_drift exactWriting coding hw he (numbers ▸ hq)
      lossless := by
        intro whole
        rw [← factor] at whole ⊢
        rw [← numbers]
        exact Series.compressed_exact exactWriting coding hw (wholes _ whole) }

/-- A format of tenths: longitudes as decimals, latitudes and times as differences. -/
def tenthsFormat : DataFormat :=
  let array :=
    ArrayFormat.ofDeclaration "ARRAY(_X DECIMAL , _Y DELTADECIMAL , _TIME DELTAINTEGER ,)"
  { attributes := [.declared "_ID" "STRING" ";", .declared "_COORDINATES" array.declaration ";"]
    coordinates := some array
    decimalPrecision := 1 }

def tenths : Transformer :=
  { format := tenthsFormat
    coordinates :=
      ArrayFormat.ofDeclaration "ARRAY(_X DECIMAL , _Y DELTADECIMAL , _TIME DELTAINTEGER ,)"
    x := ⟨0, "DECIMAL"⟩
    y := ⟨1, "DELTADECIMAL"⟩
    time := ⟨2, "DELTAINTEGER"⟩
    timePattern := none
    scale := (Decimal.powerOfTen? 1).getD .zero
    shape := .all }

/-- The written longitudes of this record fall behind by nine hundredths with every point. -/
def hundredths : Text := "a;0.19,1,5,0.38,-0.25,3,0.57,0.25,-4"

theorem written_column_drift_hundredths :
    ∃ done, ofFormat tenthsFormat .all = .ok tenths ∧ (tenths.prepare 0 hundredths).1 = .ok done
      ∧ (∀ o ∈ tenths.operations hundredths, o.IsExact)
      ∧ DeclaredType.isNumber (tenths.axis .x).declaredType = true
      ∧ ∃ (a : tenths.Account 0 hundredths done) (parsed : List Decimal) (written : List ℤ),
        a.Follows .x parsed written := by
  have made : ofFormat tenthsFormat .all = .ok tenths := by
    refine ofFormat_eq_ok.mpr ⟨rfl, rfl, rfl, ?_, ?_, ?_, ?_, ?_⟩ <;> decide +kernel
  obtain ⟨done, accepted⟩ : ∃ done, (tenths.prepare 0 hundredths).1 = .ok done :=
    exists_of_isOk (by decide +kernel)
  have exact : ∀ o ∈ tenths.operations hundredths, o.IsExact := by decide +kernel
  exact ⟨done, made, accepted, exact, by decide +kernel,
    written_column_drift made accepted exact .x (by decide +kernel)⟩

end Transformer

end TrajectoryFormat.Record
