import TrajectoryFormat.Output.Descriptor
import TrajectoryFormat.Proofs.AcceptedRecord
import TrajectoryFormat.Proofs.CompiledModel
import TrajectoryFormat.Proofs.Splitting

/-!
# The fields of a line

A line has the ID, one field of coordinates, and fields for further attributes. The coordinates are
rows, one for each point, and every row has an item for each column of the shape: the axes, and for
the full shape every other attribute of the coordinates array. A column knows the place of its
attribute, and what the descriptor calls it.
-/

namespace TrajectoryFormat.Record

open Checked Description Output

/-! ## Values and points -/

@[simp] theorem length_rawValues (text? : Option Text) (attributes : List Attribute) :
    (rawValues text? attributes).length = attributes.length := by
  induction attributes generalizing text? with
  | nil => cases text? <;> rfl
  | cons a attributes ih =>
    cases text? with
    | none => rw [rawValues, List.length_cons, ih, List.length_cons]
    | some text =>
      rw [rawValues]
      split
      · rw [List.length_cons, ih, List.length_cons]
      · rw [List.length_cons, ih, List.length_cons]

@[simp] theorem length_splitValues (f : DataFormat) (record : Text) :
    (splitValues f record).length = f.attributes.length := by
  rw [splitValues, List.length_zipWith, length_rawValues, Nat.min_self]

/-- Groups of a list that they divide evenly have one size. -/
theorem length_of_mem_groupsOf {size : Nat} (positive : 0 < size) {items : List Text}
    (whole : items.length % size = 0) : ∀ g ∈ groupsOf size items, g.length = size := by
  induction length : items.length using Nat.strongRecOn generalizing items with
  | ind n ih =>
    subst length
    cases items with
    | nil =>
      rw [groupsOf]
      exact fun g mem => absurd mem List.not_mem_nil
    | cons item rest =>
      have enough : size ≤ rest.length + 1 :=
        Nat.le_of_dvd (Nat.succ_pos _) (Nat.dvd_of_mod_eq_zero whole)
      have shorter : (rest.drop (size - 1)).length = rest.length + 1 - size := by
        rw [List.length_drop]
        omega
      rw [groupsOf, List.forall_mem_cons]
      constructor
      · rw [List.length_cons, List.length_take]
        omega
      · apply ih _ _ _ rfl
        · rw [shorter, List.length_cons]
          omega
        · rw [shorter, ← Nat.mod_eq_sub_mod enough]
          exact whole

theorem Series.length_compressed {scale : Decimal} {s : Series} {texts : List Text}
    (h : s.compressed scale = .ok texts) : texts.length = s.length := by
  cases s with
  | numeric values isDelta isDecimal =>
    obtain ⟨coded, coding, written, wholes, rfl⟩ := compressed_numeric_eq_ok.mp h
    rw [List.length_map, ← wholes.length_eq, length_coded? coding, length]
  | text values =>
    cases h
    rfl

/-- A selection from the elements of a list with their places is one from the places. -/
theorem map_filter_zipIdx {α β : Type} {l : List α} {p : α × Nat → Bool} {g : α × Nat → β}
    (P : Nat → Bool) (G : Nat → β) (selects : ∀ x i, l[i]? = some x → p (x, i) = P i)
    (values : ∀ x i, l[i]? = some x → g (x, i) = G i) :
    (l.zipIdx.filter p).map g = ((List.range l.length).filter P).map G := by
  have select : l.zipIdx.filter p = l.zipIdx.filter (P ∘ Prod.snd) :=
    List.filter_congr fun x mem => selects x.1 x.2 (List.mem_zipIdx_iff_getElem?.mp mem)
  have value : (l.zipIdx.filter (P ∘ Prod.snd)).map g
      = (l.zipIdx.filter (P ∘ Prod.snd)).map (G ∘ Prod.snd) :=
    List.map_congr_left fun x mem =>
      values x.1 x.2 (List.mem_zipIdx_iff_getElem?.mp (List.mem_filter.mp mem).1)
  rw [select, value, ← List.map_map, ← List.filter_map, List.zipIdx_map_snd, List.range_eq_range']

theorem subset_filter_zipIdx {α : Type} (l : List α) (p : α × Nat → Bool) :
    (l.zipIdx.filter p).map Prod.fst ⊆ l := by
  have selected : ((l.zipIdx.filter p).map Prod.fst).Sublist (l.zipIdx.map Prod.fst) :=
    List.filter_sublist.map Prod.fst
  rw [List.zipIdx_map_fst] at selected
  exact selected.subset

theorem length_filter_zipIdx {α : Type} {l : List α} {p : α × Nat → Bool} (P : Nat → Bool)
    (selects : ∀ x i, l[i]? = some x → p (x, i) = P i) :
    (l.zipIdx.filter p).length = ((List.range l.length).filter P).length := by
  have places := map_filter_zipIdx (g := Prod.snd) P id selects fun _ _ _ => rfl
  rw [← List.length_map Prod.snd, places, List.length_map]

/-- The elements of a list that satisfy `p`, counted by place. -/
theorem countP_eq_length_filter_range {α : Type} (l : List α) (p : α → Bool) :
    l.countP p = ((List.range l.length).filter fun i => l[i]?.any p).length := by
  rw [← length_filter_zipIdx (p := p ∘ Prod.fst) _ (fun x i here => by simp [here]),
    ← List.countP_eq_length_filter, ← List.countP_map, List.zipIdx_map_fst]

/-- Places of which some are special. -/
theorem length_filter_range {n : Nat} {p q : Nat → Bool} {special : List Nat}
    (nodup : special.Nodup) (apart : ∀ i ∈ special, p i = false)
    (either : ∀ i, (i < n ∧ q i = true) ↔ (i < n ∧ p i = true) ∨ i ∈ special) :
    ((List.range n).filter p).length + special.length = ((List.range n).filter q).length := by
  have disjoint : ∀ i ∈ (List.range n).filter p, i ∉ special := by
    intro i mem here
    have holds := (List.mem_filter.mp mem).2
    rw [apart i here] at holds
    cases holds
  have parts : ((List.range n).filter p ++ special).Nodup :=
    List.nodup_append.mpr ⟨List.nodup_range.filter p, nodup, fun i mem j here same =>
      disjoint i mem (same ▸ here)⟩
  have same : ((List.range n).filter q).Perm ((List.range n).filter p ++ special) := by
    apply (List.perm_ext_iff_of_nodup (List.nodup_range.filter q) parts).mpr
    intro i
    rw [List.mem_append, List.mem_filter, List.mem_filter, List.mem_range]
    exact either i
  rw [same.length_eq, List.length_append]

/-- In rows of one length an item is found by the number of its row and its place in the row. -/
theorem getElem?_flatten_rows {rows : List (List Text)} {width place : Nat}
    (even : ∀ row ∈ rows, row.length = width) (inside : place < width) (k : Nat) :
    rows.flatten[k * width + place]? = rows[k]?.bind fun row => row[place]? := by
  induction rows generalizing k with
  | nil => simp
  | cons row rest ih =>
    obtain ⟨length, others⟩ := List.forall_mem_cons.mp even
    cases k with
    | zero =>
      rw [Nat.zero_mul, Nat.zero_add, List.flatten_cons,
        List.getElem?_append_left (length ▸ inside)]
      rfl
    | succ k =>
      have index : (k + 1) * width + place = row.length + (k * width + place) := by
        rw [length, Nat.succ_mul]
        omega
      rw [index, List.flatten_cons, List.getElem?_append_right (Nat.le_add_right ..),
        Nat.add_sub_cancel_left, ih others, List.getElem?_cons_succ]

/-! ## Axes by dimension -/

namespace Dimension

/-- The names that the attribute of an axis may have. -/
def keywords : Dimension → List Keyword
  | .x => [.x, .lon]
  | .y => [.y, .lat]
  | .time => [.time]

/-- What the descriptor calls an axis. -/
def name : Dimension → Text
  | .x => Keyword.x.name
  | .y => Keyword.y.name
  | .time => Keyword.time.name

theorem keywords_apart {d e : Dimension} {k : Keyword} (hd : k ∈ d.keywords)
    (he : k ∈ e.keywords) : d = e := by
  revert hd he
  cases d <;> cases e <;> cases k <;> decide

/-- The axes that are written in a shape. -/
def ofShape : OutputShape → List Dimension
  | .spatial => [.x, .y]
  | .spatialTemporal => [.x, .y, .time]
  | .all => [.x, .y, .time]

end Dimension

namespace Transformer

variable {f : DataFormat} {shape : OutputShape} {t : Transformer}

/-- The axis at a place of the coordinates array. -/
def dimensionAt? (t : Transformer) (place : Nat) : Option Dimension :=
  [Dimension.x, .y, .time].find? fun d => (t.axis d).index == place

/-- An axis has the place of the first attribute with one of its names, and the type of this
attribute. -/
theorem axis_eq (made : ofFormat f shape = .ok t) (d : Dimension) :
    position? t.coordinates.attributes d.keywords = some (t.axis d).index ∧
      ∃ a, t.coordinates.attributes[(t.axis d).index]? = some a
        ∧ a.declaredType = (t.axis d).declaredType := by
  obtain ⟨_, _, _, hx, hy, htime, _⟩ := ofFormat_eq_ok.mp made
  have parts : ∀ {index? : Option Nat} {axis : Axis}, axis? t.coordinates index? = some axis →
      index? = some axis.index ∧
        ∃ a, t.coordinates.attributes[axis.index]? = some a
          ∧ a.declaredType = axis.declaredType := by
    intro index? axis found
    simp only [axis?, Option.bind_eq_bind, Option.bind_eq_some_iff, Option.pure_def,
      Option.some.injEq] at found
    obtain ⟨i, place, a, here, rfl⟩ := found
    exact ⟨place, a, here, rfl⟩
  cases d with
  | x => exact parts hx
  | y => exact parts hy
  | time => exact parts htime

/-- The attribute of an axis has one of the names of the axis. -/
theorem axis_named (made : ofFormat f shape = .ok t) (d : Dimension) :
    ∃ a, t.coordinates.attributes[(t.axis d).index]? = some a ∧ ∃ k ∈ d.keywords, a.name = k.name :=
  position?_eq_some (axis_eq made d).1

theorem axis_injective (made : ofFormat f shape = .ok t) {d e : Dimension}
    (same : (t.axis d).index = (t.axis e).index) : d = e := by
  obtain ⟨a, here, k, hd, named⟩ := axis_named made d
  obtain ⟨b, there, l, he, named'⟩ := axis_named made e
  rw [same, there, Option.some.injEq] at here
  rw [here, named] at named'
  exact Dimension.keywords_apart hd (Keyword.name_injective named' ▸ he)

theorem dimensionAt?_eq_some (made : ofFormat f shape = .ok t) {place : Nat} {d : Dimension} :
    t.dimensionAt? place = some d ↔ (t.axis d).index = place := by
  have place_of_found : ∀ {e : Dimension}, t.dimensionAt? place = some e →
      (t.axis e).index = place := by
    intro e found
    exact beq_iff_eq.mp (List.find?_some (p := fun d => (t.axis d).index == place) found)
  constructor
  · exact place_of_found
  · intro here
    have some : (t.dimensionAt? place).isSome = true := by
      rw [dimensionAt?, List.find?_isSome]
      exact ⟨d, by cases d <;> decide, beq_iff_eq.mpr here⟩
    obtain ⟨e, found⟩ := Option.isSome_iff_exists.mp some
    rw [found, axis_injective made ((place_of_found found).trans here.symm)]

/-- The places without an axis are those of the other attributes. -/
theorem isSemantic_iff (made : ofFormat f shape = .ok t) (place : Nat) :
    t.coordinates.isSemantic place = true ↔ t.dimensionAt? place = none := by
  have hx := (axis_eq made .x).1
  have hy := (axis_eq made .y).1
  have htime := (axis_eq made .time).1
  have axes : t.coordinates.isSemantic place = true ↔ ∀ d, (t.axis d).index ≠ place := by
    rw [ArrayFormat.isSemantic, ArrayFormat.xIndex?, ArrayFormat.yIndex?, ArrayFormat.timeIndex?]
    simp only [Dimension.keywords] at hx hy htime
    rw [hx, hy, htime]
    simp only [Bool.and_eq_true, bne_iff_ne, ne_eq, Option.some.injEq, and_assoc]
    constructor
    · rintro ⟨notX, notY, notTime⟩ (_ | _ | _)
      · exact notX
      · exact notY
      · exact notTime
    · intro none
      exact ⟨none .x, none .y, none .time⟩
  rw [axes, Option.eq_none_iff_forall_ne_some]
  exact forall_congr' fun d => (not_congr (dimensionAt?_eq_some made)).symm

end Transformer

/-! ## Columns -/

/-- A column of what is written: the place of its attribute, and its name and type in the
descriptor. -/
structure Column where
  place : Nat
  name : Text
  type : Text
deriving DecidableEq

def Column.ofAttribute (a : Attribute) (place : Nat) : Column := ⟨place, a.name, a.declaredType⟩

namespace Transformer

variable {f : DataFormat} {shape : OutputShape} {t : Transformer} {counter : Nat} {record : Text}
  {done : Transformed}

/-- The type that the values of an axis are written in. -/
def axisType (t : Transformer) : Dimension → Text
  | .x => spaceType t.coordinates t.coordinates.xIndex?
  | .y => spaceType t.coordinates t.coordinates.yIndex?
  | .time => timeType t.coordinates

def axisColumn (t : Transformer) (d : Dimension) : Column :=
  ⟨(t.axis d).index, d.name, t.axisType d⟩

/-- The columns of the attributes that are no axes. -/
def semanticColumns (t : Transformer) : List Column :=
  (t.coordinates.attributes.zipIdx.filter fun (_, i) => t.coordinates.isSemantic i).map
    fun (a, i) => Column.ofAttribute a i

/-- The columns that are written for every point. -/
def pointColumns (t : Transformer) : List Column :=
  (Dimension.ofShape t.shape).map t.axisColumn ++ if t.shape = .all then t.semanticColumns else []

/-- The columns that are written after the coordinates. -/
def furtherColumns (t : Transformer) : List Column :=
  if t.shape = .all then
    (t.format.attributes.zipIdx.filter fun (a, i) => t.format.isFurther i a).map fun (a, i) =>
      Column.ofAttribute a i
  else []

/-- The descriptor describes the columns of a point. -/
theorem pointItems_eq (t : Transformer) :
    pointItems t.coordinates t.shape = t.pointColumns.map fun c => item c.name c.type := by
  unfold pointItems pointColumns
  cases t.shape with
  | spatial => rfl
  | spatialTemporal => rfl
  | all =>
    simp [Dimension.ofShape, axisColumn, Dimension.name, axisType, semanticColumns,
      ArrayFormat.semanticAttributes, Column.ofAttribute, Function.comp_def]

theorem furtherLines_eq (t : Transformer) :
    furtherLines t.format t.shape = t.furtherColumns.map fun c => Output.line c.name c.type := by
  unfold furtherLines furtherColumns
  cases t.shape with
  | spatial => rfl
  | spatialTemporal => rfl
  | all => simp [furtherAttributes, Column.ofAttribute, Function.comp_def]

/-- The places of the columns after the coordinates. -/
theorem furtherPlaces_eq (t : Transformer) :
    t.furtherColumns.map Column.place = if t.shape = .all then
      (List.range t.format.attributes.length).filter fun i =>
        (t.format.attributes[i]?).any (t.format.isFurther i)
    else [] := by
  unfold furtherColumns
  split
  · rw [List.map_map, map_filter_zipIdx _ id, List.map_id]
    · intro a i here
      rw [here, Option.any_some]
    · exact fun _ _ _ => rfl
  · rfl

/-- The value after the coordinates at a place. -/
def fieldValue (t : Transformer) (values : List Text) (place : Nat) : Text :=
  (t.format.attributes[place]?).elim [] fun a => furtherValue a (values[place]?.getD [])

theorem furtherFields_eq (t : Transformer) {values : List Text}
    (length : values.length = t.format.attributes.length) :
    t.furtherFields values = t.furtherColumns.map fun c => t.fieldValue values c.place := by
  unfold furtherFields furtherColumns
  cases t.shape with
  | spatial => rfl
  | spatialTemporal => rfl
  | all =>
    let further : Nat → Bool := fun i => t.format.attributes[i]?.any (t.format.isFurther i)
    rw [if_pos rfl]
    dsimp only
    rw [List.map_map, map_filter_zipIdx further (t.fieldValue values),
      map_filter_zipIdx further (t.fieldValue values), List.length_zip, length, Nat.min_self]
    · intro a i here
      simp [further, here]
    · exact fun a i _ => rfl
    · intro x i here
      simp [further, (List.getElem?_zip_eq_some.mp here).1]
    · intro x i here
      simp [fieldValue, List.getElem?_zip_eq_some.mp here]

/-- The value of a point at a place: of an axis as it is written, of another attribute as it is in
the record. -/
def pointValue (t : Transformer) (axes : Dimension → Text) (point : List Text)
    (place : Nat) : Text :=
  match t.dimensionAt? place with
  | some d => axes d
  | none => point[place]?.getD []

theorem pointFields_eq (made : ofFormat f shape = .ok t) (axes : Dimension → Text)
    {point : List Text} (length : point.length = t.coordinates.attributes.length) :
    t.pointFields (axes .x) (axes .y) (axes .time) point
      = t.pointColumns.map fun c => t.pointValue axes point c.place := by
  have onAxes : ∀ ds : List Dimension,
      (ds.map t.axisColumn).map (fun c => t.pointValue axes point c.place) = ds.map axes := by
    intro ds
    rw [List.map_map]
    refine List.map_congr_left fun d _ => ?_
    have here : t.dimensionAt? (t.axis d).index = some d := (dimensionAt?_eq_some made).mpr rfl
    simp [axisColumn, pointValue, here]
  unfold pointFields pointColumns
  rw [List.map_append, onAxes]
  cases t.shape with
  | spatial => rfl
  | spatialTemporal => rfl
  | all =>
    have alike : ((List.range point.length).filter t.coordinates.isSemantic).map
        (t.pointValue axes point)
        = ((List.range point.length).filter t.coordinates.isSemantic).map fun i =>
          point[i]?.getD [] := by
      apply List.map_congr_left
      intro i mem
      rw [pointValue, (isSemantic_iff made i).mp (List.mem_filter.mp mem).2]
    rw [if_pos rfl, semanticColumns, List.map_map]
    refine congrArg ([axes .x, axes .y, axes .time] ++ ·) ?_
    rw [map_filter_zipIdx t.coordinates.isSemantic fun i => point[i]?.getD [], ← alike, length,
      map_filter_zipIdx t.coordinates.isSemantic (t.pointValue axes point)]
    · exact fun _ _ _ => rfl
    · exact fun _ _ _ => rfl
    · exact fun _ _ _ => rfl
    · intro x i here
      rw [here, Option.getD_some]

section Accounts
variable (a : t.Account counter record done)

/-- The items that are written for each point. -/
def Account.rows : List (List Text) :=
  (a.points.zip ((a.columns .x).zip ((a.columns .y).zip (a.columns .time)))).map
    fun (point, x, y, time) => t.pointFields x y time point

theorem Account.coordinateFields_eq :
    t.coordinateFields a.points (a.columns .x) (a.columns .y) (a.columns .time)
      = a.rows.flatten := by
  rw [coordinateFields, rows, List.flatMap_def]

@[simp] theorem Account.length_columns (d : Dimension) :
    (a.columns d).length = a.points.length := by
  obtain ⟨hx, hy, htime⟩ := rawAxes_eq_ok.mp a.raw_eq
  have written := Series.length_compressed (a.columns_eq d)
  rw [written]
  cases d with
  | x => exact (Series.length_ofItems hx).trans (List.length_map _)
  | y => exact (Series.length_ofItems hy).trans (List.length_map _)
  | time =>
    have read : a.raw.time.length = a.points.length := by
      unfold rawTime at htime
      split at htime
      · exact (Series.length_ofDates htime).trans (List.length_map _)
      · exact (Series.length_ofItems htime).trans (List.length_map _)
    exact (Series.length_repaired a.time_eq).trans read

@[simp] theorem Account.length_rows : a.rows.length = a.points.length := by
  simp only [rows, List.length_map, List.length_zip, a.length_columns, Nat.min_self]

theorem Account.length_of_mem_points (nonempty : t.coordinates.attributes ≠ []) :
    ∀ point ∈ a.points, point.length = t.coordinates.attributes.length := by
  obtain ⟨text, _, _, whole, groups⟩ := points_eq_ok.mp a.points_eq
  rw [← groups]
  exact length_of_mem_groupsOf (List.length_pos_iff.mpr nonempty) whole

/-- The value of the point with number `k` at a place. -/
def Account.value (k place : Nat) : Text :=
  t.pointValue (fun d => (a.columns d)[k]?.getD []) (a.points[k]?.getD []) place

/-- Every row has the values of its point, column by column. -/
theorem Account.rows_eq (made : ofFormat f shape = .ok t) :
    a.rows = (List.range a.points.length).map fun k => t.pointColumns.map fun c =>
      a.value k c.place := by
  have nonempty : t.coordinates.attributes ≠ [] := by
    obtain ⟨b, here, _⟩ := (axis_eq made .x).2
    exact List.ne_nil_of_mem (List.mem_of_getElem? here)
  apply List.ext_getElem
  · rw [a.length_rows, List.length_map, List.length_range]
  · intro k inside _
    rw [a.length_rows] at inside
    have point := a.length_of_mem_points nonempty _ (List.getElem_mem inside)
    have bound : ∀ d, k < (a.columns d).length := fun d => by rwa [a.length_columns]
    have column : ∀ d, (a.columns d)[k]?.getD [] = (a.columns d).get ⟨k, bound d⟩ := by
      intro d
      rw [List.getElem?_eq_getElem (bound d), Option.getD_some, List.get_eq_getElem]
    have fields := pointFields_eq made (fun d => (a.columns d)[k]?.getD []) point
    simp only [column] at fields
    simp only [rows, List.getElem_map, List.getElem_zip, List.getElem_range, value, column,
      List.getElem?_eq_getElem inside, Option.getD_some]
    exact fields

/-- The fields of the coordinates in a line. -/
def Account.fields : List Text :=
  t.coordinateFields a.points (a.columns .x) (a.columns .y) (a.columns .time)

/-- The column of an axis is read off the fields: it has one of the fields of each point, at the
place of the axis in the shape. -/
theorem Account.getElem?_fields (made : ofFormat f shape = .ok t) {d : Dimension} {place : Nat}
    (shown : (Dimension.ofShape t.shape)[place]? = some d) {k : Nat} (bound : k < a.points.length) :
    a.fields[k * t.pointColumns.length + place]? = (a.columns d)[k]? := by
  have column : t.pointColumns[place]? = some (t.axisColumn d) := by
    have axis : ((Dimension.ofShape t.shape).map t.axisColumn)[place]? = some (t.axisColumn d) := by
      rw [List.getElem?_map, shown, Option.map_some]
    rw [pointColumns, List.getElem?_append_left (List.getElem?_eq_some_iff.mp axis).1, axis]
  have inside : place < t.pointColumns.length := (List.getElem?_eq_some_iff.mp column).1
  have even : ∀ row ∈ a.rows, row.length = t.pointColumns.length := by
    rw [a.rows_eq made, List.forall_mem_map]
    intro n _
    rw [List.length_map]
  have here : t.dimensionAt? (t.axisColumn d).place = some d := (dimensionAt?_eq_some made).mpr rfl
  have written : k < (a.columns d).length := by rwa [a.length_columns]
  calc a.fields[k * t.pointColumns.length + place]?
      = a.rows[k]?.bind fun row => row[place]? := by
        rw [fields, a.coordinateFields_eq, getElem?_flatten_rows even inside]
    _ = some (a.value k (t.axisColumn d).place) := by
        rw [a.rows_eq made, List.getElem?_map, List.getElem?_range bound]
        simp [column]
    _ = (a.columns d)[k]? := by simp [value, pointValue, here, List.getElem?_eq_getElem written]

end Accounts

end Transformer

end TrajectoryFormat.Record
