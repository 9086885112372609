import Mathlib.Tactic.IntervalCases
import TrajectoryFormat.Proofs.AcceptedRecord
import TrajectoryFormat.Proofs.ItemsInTurn
import TrajectoryFormat.Proofs.SampleColumns
import TrajectoryFormat.Proofs.WholeColumn

/-!
# Reading canonical lines

A canonical line is an ID, a semicolon, and the numerals of delta-coded points between commas. The
canonical description declares just that, and what it declares reads such a line and writes it
again.
-/

namespace TrajectoryFormat.Record.Transformer

open Checked Number

/-- Declares records in the form that records of space and time are written in. -/
def canonicalDescription : Text :=
  Text.join "\n"
    ["_ID STRING ;",
      "_COORDINATES ARRAY(_X DELTAINTEGER , _Y DELTAINTEGER , _TIME DELTAINTEGER ,) ;",
      "_OUTPUT_FORMAT SPATIAL_TEMPORAL"]

def canonicalType : Text := "ARRAY(_X DELTAINTEGER , _Y DELTAINTEGER , _TIME DELTAINTEGER ,)"

def canonicalArray : ArrayFormat :=
  ⟨canonicalType,
    [⟨"_X", "DELTAINTEGER", ","⟩, ⟨"_Y", "DELTAINTEGER", ","⟩, ⟨"_TIME", "DELTAINTEGER", ","⟩]⟩

def canonicalFormat : DataFormat where
  attributes := [⟨"_ID", "STRING", ";"⟩, ⟨"_COORDINATES", canonicalType, ";"⟩]
  coordinates := some canonicalArray
  outputShape := .spatialTemporal

def canonicalReader : Transformer where
  format := canonicalFormat
  coordinates := canonicalArray
  x := ⟨0, "DELTAINTEGER"⟩
  y := ⟨1, "DELTAINTEGER"⟩
  time := ⟨2, "DELTAINTEGER"⟩
  timePattern := none
  scale := (Decimal.powerOfTen? 5).getD .zero
  shape := .spatialTemporal

theorem compile_canonicalDescription :
    (compile canonicalDescription).result = .ok canonicalFormat := by
  decide +kernel

theorem ofFormat_canonicalFormat :
    ofFormat canonicalFormat canonicalFormat.outputShape = .ok canonicalReader := by
  rw [ofFormat_eq_ok]
  refine ⟨rfl, rfl, rfl, ?_, ?_, ?_, ?_, ?_⟩ <;> decide

/-! ## Points in rows -/

/-- The items of points, each with a place in space and a time. -/
def rows (xs ys times : List Text) : List (List Text) :=
  (xs.zip (ys.zip times)).map fun (x, y, time) => [x, y, time]

variable {xs ys times : List Text}

theorem length_rows (hy : ys.length = xs.length) (ht : times.length = xs.length) :
    (rows xs ys times).length = xs.length := by
  simp [rows, hy, ht]

theorem length_of_mem_rows : ∀ row ∈ rows xs ys times, row.length = 3 := by
  intro row h
  obtain ⟨_, _, rfl⟩ := List.mem_map.mp h
  rfl

theorem forall_mem_rows {P : Text → Prop} (hx : ∀ s ∈ xs, P s) (hy : ∀ s ∈ ys, P s)
    (ht : ∀ s ∈ times, P s) : ∀ s ∈ (rows xs ys times).flatten, P s := by
  intro s h
  obtain ⟨row, mem, hs⟩ := List.mem_flatten.mp h
  obtain ⟨⟨x, y, time⟩, triple, rfl⟩ := List.mem_map.mp mem
  have right := List.of_mem_zip triple
  have last := List.of_mem_zip right.2
  rcases List.mem_cons.mp hs with rfl | hs
  · exact hx _ right.1
  · rcases List.mem_cons.mp hs with rfl | hs
    · exact hy _ last.1
    · rw [List.mem_singleton.mp hs]
      exact ht _ last.2

theorem column_rows (hy : ys.length = xs.length) (ht : times.length = xs.length) :
    column canonicalReader.x (rows xs ys times) = xs
      ∧ column canonicalReader.y (rows xs ys times) = ys
      ∧ column canonicalReader.time (rows xs ys times) = times := by
  have rest : (xs.zip (ys.zip times)).map Prod.snd = ys.zip times :=
    List.map_snd_zip (by simp [hy, ht])
  refine ⟨?_, ?_, ?_⟩ <;> rw [column, rows, List.map_map]
  · exact List.map_fst_zip (by simp [hy, ht])
  · calc _ = ((xs.zip (ys.zip times)).map Prod.snd).map Prod.fst := by rw [List.map_map]; rfl
      _ = ys := by rw [rest, List.map_fst_zip (by rw [hy, ht])]
  · calc _ = ((xs.zip (ys.zip times)).map Prod.snd).map Prod.snd := by rw [List.map_map]; rfl
      _ = times := by rw [rest, List.map_snd_zip (by rw [hy, ht])]

/-- The fields of points in space and time are the items of their rows. -/
theorem coordinateFields_spatialTemporal {t : Transformer} (shape : t.shape = .spatialTemporal)
    {points : List (List Text)} (hx : points.length = xs.length) (hy : ys.length = xs.length)
    (ht : times.length = xs.length) :
    t.coordinateFields points xs ys times = (rows xs ys times).flatten := by
  calc t.coordinateFields points xs ys times
      = (((points.zip (xs.zip (ys.zip times))).map Prod.snd).map
          fun (x, y, time) => [x, y, time]).flatten := by
        simp only [coordinateFields, pointFields, shape, List.flatMap, List.map_map,
          Function.comp_def]
    _ = (rows xs ys times).flatten := by
        rw [List.map_snd_zip (by simp [hx, hy, ht])]
        rfl

/-! ## The line of an ID and rows -/

def canonicalLine (id : Text) (rows : List (List Text)) : Text :=
  Text.join ";" [id, Text.join "," rows.flatten]

theorem splitValues_canonicalLine {id : Text} {rows : List (List Text)} (plain : ';' ∉ id)
    (clean : ∀ item ∈ rows.flatten, ';' ∉ item) :
    splitValues canonicalFormat (canonicalLine id rows) = [id, Text.join "," rows.flatten] := by
  have line : canonicalLine id rows = id ++ ';' :: Text.join "," rows.flatten := by
    rw [canonicalLine, Text.join_cons_cons, Text.join_singleton, List.append_assoc]
    rfl
  have first : cutAt? ";" (canonicalLine id rows) = some (id, Text.join "," rows.flatten) := by
    rw [line]
    exact Text.cut?_at id _ plain
  have last : cutAt? ";" (Text.join "," rows.flatten) = none :=
    Text.cut?_none _ (Text.notMem_join (by decide) clean)
  have raw : rawValues (some (canonicalLine id rows)) canonicalFormat.attributes
      = [id, Text.join "," rows.flatten] := by
    simp only [canonicalFormat, rawValues, first, last]
  rw [splitValues, raw]
  rfl

theorem splitItems_canonicalArray {items : List Text} (some_item : items ≠ [])
    (filled : ∀ item ∈ items, item ≠ []) (clean : ∀ item ∈ items, ',' ∉ item) :
    splitItems canonicalArray (Text.join "," items) = items := by
  have mark : ∀ k, ((([",", ",", ","] : List Text)[k % 3]?).getD []) = [','] := by
    intro k
    have small : k % 3 < 3 := Nat.mod_lt k (by decide)
    interval_cases k % 3 <;> rfl
  calc splitItems canonicalArray (Text.join "," items)
      = dropEmptyLast (itemsFrom [",", ",", ","] 0 (Text.join [','] items)) := rfl
    _ = items := by rw [itemsFrom_join mark some_item clean 0, dropEmptyLast_of_nonempty filled]

/-- Rows come back from the values that a canonical line is cut into. -/
theorem points_canonicalReader (id : Text) {rows : List (List Text)} (some_row : rows ≠ [])
    (triples : ∀ row ∈ rows, row.length = 3) (filled : ∀ item ∈ rows.flatten, item ≠ [])
    (clean : ∀ item ∈ rows.flatten, ',' ∉ item) :
    canonicalReader.points [id, Text.join "," rows.flatten] = .ok rows := by
  have count : rows.flatten.length = rows.length * 3 := by
    rw [List.length_flatten, List.map_congr_left triples, List.map_const', List.sum_replicate_nat]
  have some_item : rows.flatten ≠ [] := by
    rw [← List.length_pos_iff, count]
    have := List.length_pos_iff.mpr some_row
    omega
  have items : splitItems canonicalReader.coordinates (Text.join "," rows.flatten) = rows.flatten :=
    splitItems_canonicalArray some_item filled clean
  refine points_eq_ok.mpr ⟨_, rfl, by rwa [items], ?_, ?_⟩
  · rw [items, count]
    exact Nat.mul_mod_left _ _
  · rw [items]
    exact groupsOf_flatten (by decide) triples

/-! ## Numbers read and written again -/

/-- The numbers of a canonical line: 64-bit ones, one of each axis for every point, and times that
do not go back. -/
structure Canonical (xs ys times : List Int) : Prop where
  some_point : xs ≠ []
  short : xs.length < 2 ^ 32
  y_length : ys.length = xs.length
  time_length : times.length = xs.length
  x_fits : ∀ n ∈ xs, FitsInt64 n
  y_fits : ∀ n ∈ ys, FitsInt64 n
  time_fits : ∀ n ∈ times, FitsInt64 n
  steps : Series.TailNonneg times

def numeralRows (xs ys times : List Int) : List (List Text) :=
  rows (xs.map ofInt) (ys.map ofInt) (times.map ofInt)

theorem forall_mem_numeralRows {P : Text → Prop} (h : ∀ n, P (ofInt n)) (xs ys times : List Int) :
    ∀ item ∈ (numeralRows xs ys times).flatten, P item := by
  have numerals (ns : List Int) : ∀ s ∈ ns.map ofInt, P s := by
    simp only [List.mem_map, forall_exists_index, and_imp, forall_apply_eq_imp_iff₂]
    exact fun n _ => h n
  exact forall_mem_rows (numerals xs) (numerals ys) (numerals times)

section Reading
variable {xs ys times : List Int}

theorem ofItems_deltaInteger {values : List Decimal} {items : List Text}
    (h : items.mapM Series.number = .ok values) :
    Series.ofItems "DELTAINTEGER" items = .ok (.numeric values true false) := by
  rw [Series.ofItems_eq_ok (by decide)]
  refine ⟨values, h, ?_⟩
  congr 1

theorem Canonical.length_numerals (h : Canonical xs ys times) :
    (ys.map ofInt).length = (xs.map ofInt).length
      ∧ (times.map ofInt).length = (xs.map ofInt).length := by
  simp only [List.length_map, h.y_length, h.time_length, and_self]

theorem Canonical.rows_ne_nil (h : Canonical xs ys times) : numeralRows xs ys times ≠ [] := by
  obtain ⟨yCount, timeCount⟩ := h.length_numerals
  rw [← List.length_pos_iff, numeralRows, length_rows yCount timeCount, List.length_map,
    List.length_pos_iff]
  exact h.some_point

/-- The axes of canonical rows are read as the numbers that the numerals spell. -/
theorem rawAxes_canonicalReader (h : Canonical xs ys times)
    {xValues yValues timeValues : List Decimal}
    (xRead : (xs.map ofInt).mapM Series.number = .ok xValues)
    (yRead : (ys.map ofInt).mapM Series.number = .ok yValues)
    (timeRead : (times.map ofInt).mapM Series.number = .ok timeValues) :
    canonicalReader.rawAxes (numeralRows xs ys times)
      = .ok ⟨.numeric xValues true false, .numeric yValues true false,
        .numeric timeValues true false⟩ := by
  obtain ⟨yCount, timeCount⟩ := h.length_numerals
  obtain ⟨xColumn, yColumn, timeColumn⟩ := column_rows yCount timeCount
  rw [rawAxes_eq_ok]
  refine ⟨?_, ?_, ?_⟩
  · rw [numeralRows, xColumn]
    exact ofItems_deltaInteger xRead
  · rw [numeralRows, yColumn]
    exact ofItems_deltaInteger yRead
  · rw [numeralRows, rawTime, timeColumn]
    exact ofItems_deltaInteger timeRead

theorem body_canonicalReader (h : Canonical xs ys times) (id : Text) :
    ∃ sample, canonicalReader.body [id, Text.join "," (numeralRows xs ys times).flatten]
      = .ok (Text.join "," (numeralRows xs ys times).flatten, sample) := by
  obtain ⟨yCount, timeCount⟩ := h.length_numerals
  obtain ⟨xValues, xRead, xSpelled⟩ := Series.mapM_number_ofInt h.x_fits
  obtain ⟨yValues, yRead, ySpelled⟩ := Series.mapM_number_ofInt h.y_fits
  obtain ⟨timeValues, timeRead, timeSpelled⟩ := Series.mapM_number_ofInt h.time_fits
  obtain ⟨absolute, repaired, timesLength, written⟩ :=
    Series.repaired_of_spell canonicalReader.scale
    timeSpelled h.time_fits (by rw [h.time_length]; exact h.short) h.steps
  have xLength : xValues.length = xs.length := xSpelled.length_eq
  have yLength : yValues.length = ys.length := ySpelled.length_eq
  have sampling : ∃ sample, Statistics.Sample.ofDelta (Series.numeric xValues true false).column
      (Series.numeric yValues true false).column (Series.numeric absolute false false).column
        = .ok sample := by
    apply Statistics.Sample.exists_ofDelta
    · rw [← List.length_pos_iff, Series.column, List.length_map, xLength]
      exact List.length_pos_iff.mpr h.some_point
    · simp only [Series.column, List.length_map, xLength, yLength, h.y_length]
    · simp only [Series.column, List.length_map, xLength, timesLength, h.time_length]
  obtain ⟨sample, sampled⟩ := sampling
  have points := points_canonicalReader id h.rows_ne_nil length_of_mem_rows
    (forall_mem_numeralRows ofInt_ne_nil xs ys times)
    (forall_mem_numeralRows (fun _ => notMem_ofInt (by decide) (by decide)) xs ys times)
  have axes := readAxes_eq_ok.mpr ⟨_, _, rawAxes_canonicalReader h xRead yRead timeRead,
    repaired, rfl⟩
  refine ⟨sample, body_eq_ok.mpr ⟨numeralRows xs ys times, _, xs.map ofInt, ys.map ofInt,
    times.map ofInt, points, axes, ?_, ?_, written, sampled, ?_⟩⟩
  · exact Series.compressed_of_spell _ xSpelled h.x_fits
  · exact Series.compressed_of_spell _ ySpelled h.y_fits
  · have rowCount : (numeralRows xs ys times).length = (xs.map ofInt).length :=
      length_rows yCount timeCount
    rw [coordinateFields_spatialTemporal rfl rowCount yCount timeCount]
    rfl

/-- A canonical line is read, and written again as it is. -/
theorem prepare_canonicalLine (h : Canonical xs ys times) {id : Text} (plain : ';' ∉ id)
    (counter : Nat) :
    ∃ sample, canonicalReader.prepare counter (canonicalLine id (numeralRows xs ys times))
      = (.ok ⟨canonicalLine id (numeralRows xs ys times), sample⟩, counter) := by
  have values : splitValues canonicalReader.format (canonicalLine id (numeralRows xs ys times))
      = [id, Text.join "," (numeralRows xs ys times).flatten] :=
    splitValues_canonicalLine plain
      (forall_mem_numeralRows (fun _ => notMem_ofInt (by decide) (by decide)) xs ys times)
  obtain ⟨sample, body⟩ := body_canonicalReader h id
  refine ⟨sample, ?_⟩
  simp only [prepare, values, body]
  rfl

end Reading

end TrajectoryFormat.Record.Transformer
