import TrajectoryFormat.Proofs.CompilationGate
import TrajectoryFormat.Proofs.LineFields

/-!
# Shapes select columns

The shape of the output decides which fields of a record are written, and nothing else: what is not
written is still read, repaired and kept in range. So a record is refused for the same reason in
every shape, or it has the same ID, sample and rows of fields in all of them, and each shape writes
the first fields of every row.
-/

namespace TrajectoryFormat

open Checked Description

/-- The fields of a point that are written in a shape, from all its fields. -/
def OutputShape.selects : OutputShape → List Text → List Text
  | .spatial, fields => fields.take 2
  | .spatialTemporal, fields => fields.take 3
  | .all, fields => fields

namespace Record.Transformer

variable {f : DataFormat} {shape : OutputShape} {t : Transformer} {counter : Nat} {record : Text}
  {done : Transformed} {values : List Text}

/-- The same transformer for another shape. -/
def reshaped (t : Transformer) (shape : OutputShape) : Transformer := { t with shape }

theorem ofFormat_reshaped (made : ofFormat f shape = .ok t) (shape' : OutputShape) :
    ofFormat f shape' = .ok (t.reshaped shape') := by
  obtain ⟨array, format, _, parts⟩ := ofFormat_eq_ok.mp made
  exact ofFormat_eq_ok.mpr ⟨array, format, rfl, parts⟩

theorem pointFields_reshaped (t : Transformer) (shape : OutputShape) (x y time : Text)
    (point : List Text) :
    (t.reshaped shape).pointFields x y time point
      = shape.selects ((t.reshaped .all).pointFields x y time point) := by
  cases shape <;> rfl

/-! ## Refused records -/

theorem body_reshaped_eq_error (t : Transformer) (shape : OutputShape) {e : RecordError} :
    (t.reshaped shape).body values = .error e ↔ t.body values = .error e := by
  simp only [body, bind_eq_error, mapError_eq_error, pure_ne_error]
  exact Iff.rfl

/-- A record is refused for the same reason in every shape, and the counter moves alike. -/
theorem prepare_reshaped_eq_error {e : RecordError} {after : Nat}
    (refused : t.prepare counter record = (.error e, after)) (shape : OutputShape) :
    (t.reshaped shape).prepare counter record = (.error e, after) := by
  unfold prepare at refused ⊢
  cases body : t.body (splitValues t.format record) with
  | error e' =>
    have same : (t.reshaped shape).body (splitValues (t.reshaped shape).format record)
        = .error e' :=
      (t.body_reshaped_eq_error shape).mpr body
    simp only [body] at refused
    simpa only [same] using refused
  | ok read =>
    obtain ⟨coordinates, sample⟩ := read
    obtain ⟨points, axes, xs, ys, times, hp, ha, hx, hy, ht, hs, _⟩ := body_eq_ok.mp body
    have read : (t.reshaped shape).body (splitValues (t.reshaped shape).format record)
        = .ok (Text.join "," ((t.reshaped shape).coordinateFields points xs ys times), sample) :=
      body_eq_ok.mpr ⟨points, axes, xs, ys, times, hp, ha, hx, hy, ht, hs, rfl⟩
    simp only [body, Prod.mk.injEq, map_eq_error] at refused
    simp only [read, Prod.mk.injEq, map_eq_error]
    exact refused

/-! ## Accepted records -/

/-- An account is all that a record needs to be accepted. -/
theorem Account.prepare_eq (a : t.Account counter record done) :
    t.prepare counter record
      = (.ok done, (t.resolveId (splitValues t.format record) counter).2) := by
  have body : t.body (splitValues t.format record)
      = .ok (Text.join "," (t.coordinateFields a.points (a.columns .x) (a.columns .y)
        (a.columns .time)),
        done.sample) :=
    body_eq_ok.mpr ⟨a.points, ⟨a.raw.x, a.raw.y, a.time⟩, _, _, _, a.points_eq,
      readAxes_eq_ok.mpr ⟨a.raw, a.time, a.raw_eq, a.time_eq, rfl⟩, a.columns_eq .x,
      a.columns_eq .y, a.columns_eq .time, a.sample_eq, rfl⟩
  rw [prepare]
  simp only [body, a.id_eq, Except.map]
  rw [← a.line_eq]

/-- The fields of the points in a shape. -/
def Account.rowsIn (a : t.Account counter record done) (shape : OutputShape) : List (List Text) :=
  (a.points.zip ((a.columns .x).zip ((a.columns .y).zip (a.columns .time)))).map
    fun (point, x, y, time) => (t.reshaped shape).pointFields x y time point

theorem Account.rowsIn_eq (a : t.Account counter record done) (shape : OutputShape) :
    a.rowsIn shape = (a.rowsIn .all).map shape.selects := by
  rw [rowsIn, rowsIn, List.map_map]
  exact List.map_congr_left fun (point, x, y, time) _ => t.pointFields_reshaped shape x y time point

/-- What the lines of a record are made of: its ID, all fields of its points, and its further
fields. -/
structure Content where
  id : Text
  rows : List (List Text)
  further : List Text
  sample : Statistics.Sample Float

/-- What is written of a record in a shape: the fields that the shape selects of every point, and
the further fields in full only. -/
def Content.doneIn (c : Content) (shape : OutputShape) : Transformed where
  line := Text.join ";" (c.id :: Text.join "," (c.rows.map shape.selects).flatten
    :: if shape = .all then c.further else [])
  sample := c.sample

def Account.content (a : t.Account counter record done) : Content where
  id := a.id
  rows := a.rowsIn .all
  further := (t.reshaped .all).furtherFields (splitValues t.format record)
  sample := done.sample

/-- A record that is accepted in one shape is accepted in every shape, with the same points, axes
and ID. -/
def Account.reshaped (a : t.Account counter record done) (shape : OutputShape) :
    (t.reshaped shape).Account counter record (a.content.doneIn shape) where
  points := a.points
  raw := a.raw
  time := a.time
  columns := a.columns
  id := a.id
  points_eq := a.points_eq
  raw_eq := a.raw_eq
  time_eq := a.time_eq
  columns_eq := a.columns_eq
  sample_eq := a.sample_eq
  id_eq := a.id_eq
  line_eq := by
    have rows : a.content.rows.map shape.selects = a.rowsIn shape := (a.rowsIn_eq shape).symm
    have flat : (a.rowsIn shape).flatten
        = (t.reshaped shape).coordinateFields a.points (a.columns .x) (a.columns .y)
          (a.columns .time) :=
      List.flatMap_def.symm
    have further : (if shape = .all then a.content.further else [])
        = (t.reshaped shape).furtherFields (splitValues t.format record) := by
      cases shape <;> rfl
    rw [Content.doneIn, rows, flat, further]
    rfl

/-! ## The three lines of a record -/

/-- What a record gives in every shape, and the counter after it. -/
structure GivenIn (t : OutputShape → Transformer) (counter : Nat) (record : Text) (c : Content)
    (after : Nat) :
    Prop where
  prepared : ∀ shape, (t shape).prepare counter record = (.ok (c.doneIn shape), after)
  account : ∀ shape, ∃ a : (t shape).Account counter record (c.doneIn shape),
    a.id = c.id ∧ a.rows = c.rows.map shape.selects
  points : c.rows.length = c.sample.points.length
  axes : ∀ row ∈ c.rows, 3 ≤ row.length
  further : c.further = (t .all).furtherFields (splitValues (t .all).format record)

theorem Account.givenIn (a : t.Account counter record done) :
    GivenIn t.reshaped counter record a.content
      (t.resolveId (splitValues t.format record) counter).2 := by
  constructor
  case prepared => exact fun shape => (a.reshaped shape).prepare_eq
  case account => exact fun shape => ⟨a.reshaped shape, rfl, a.rowsIn_eq shape⟩
  case points => exact (a.reshaped .all).length_rows.trans a.length_sample.symm
  case axes =>
    intro row mem
    obtain ⟨⟨point, x, y, time⟩, _, rfl⟩ := List.mem_map.mp mem
    simp [pointFields, Transformer.reshaped]
  case further => rfl

/-- In every shape a record is refused for the same reason, or it gives the same ID and sample, and
of every point the fields that the shape selects of the same row. The counter moves alike. -/
theorem shapes_select_columns {description : Text} (compiled : (compile description).result = .ok f)
    (counter : Nat) (record : Text) :
    ∃ t : OutputShape → Transformer, (∀ shape, ofFormat f shape = .ok (t shape))
      ∧ ((∃ e after, ∀ shape, (t shape).prepare counter record = (.error e, after))
        ∨ ∃ c after, GivenIn t counter record c after) := by
  obtain ⟨_, _, h⟩ := compiled_of_compile compiled
  obtain ⟨full, made⟩ := h.exists_transformer .all
  refine ⟨full.reshaped, ofFormat_reshaped made, ?_⟩
  rcases outcome : full.prepare counter record with ⟨e | done, after⟩
  · exact .inl ⟨e, after, prepare_reshaped_eq_error outcome⟩
  · obtain ⟨a⟩ := exists_account (congrArg Prod.fst outcome)
    exact .inr ⟨_, _, a.givenIn⟩

/-- A description with generated IDs, times in the first place, an attribute of points that is no
axis, and two attributes beside the coordinates. -/
def ferriesDescription : Text :=
  Text.join "\n"
    ["_AUTO_ID ferry", "port STRING ;",
      "_COORDINATES ARRAY(_TIME DATETIME[\"yyyy-MM-dd\"] , crew INTEGER , _X INTEGER , _Y INTEGER ,) ;",
      "line STRING EOF"]

/-- A crossing whose second time goes back, and one whose second time cannot be read. -/
def crossings : List Text :=
  ["Kiel;1970-01-02,4,1,2,1970-01-01,5,3,4;north", "Kiel;1970-01-02,4,1,2,noon,5,3,4;north"]

def unreadable : Text :=
  "'noon' does not match date pattern \"yyyy-MM-dd\": input contains invalid characters"

/-- The lines of the crossings in a shape, and the counters after them. -/
def crossingsIn (f : DataFormat) (shape : OutputShape) : List (Except Text Text × Nat) :=
  (ofFormat f shape).toOption.toList.flatMap fun t => crossings.map fun record =>
    (((t.prepare 6 record).1.map Transformed.line).mapError RecordError.message,
      (t.prepare 6 record).2)

theorem shapes_select_columns_ferries :
    ∃ f, (compile ferriesDescription).result = .ok f
      ∧ [OutputShape.spatial, .spatialTemporal, .all].flatMap (crossingsIn f)
        = [(.ok "ferry_7;1,2,2,2", 7), (.error unreadable, 6),
          (.ok "ferry_7;1,2,86400000,2,2,0", 7), (.error unreadable, 6),
          (.ok "ferry_7;1,2,86400000,4,2,2,0,5;Kiel;north", 7), (.error unreadable, 6)]
      ∧ ∀ record ∈ crossings, ∃ t : OutputShape → Transformer,
        (∀ shape, ofFormat f shape = .ok (t shape))
        ∧ ((∃ e after, ∀ shape, (t shape).prepare 6 record = (.error e, after))
          ∨ ∃ c after, GivenIn t 6 record c after) := by
  have run : (compile ferriesDescription).result.map
      (fun f => [OutputShape.spatial, .spatialTemporal, .all].flatMap (crossingsIn f))
      = .ok [(.ok "ferry_7;1,2,2,2", 7), (.error unreadable, 6),
          (.ok "ferry_7;1,2,86400000,2,2,0", 7), (.error unreadable, 6),
          (.ok "ferry_7;1,2,86400000,4,2,2,0,5;Kiel;north", 7), (.error unreadable, 6)] := by
    decide +kernel
  obtain ⟨f, compiled, lines⟩ := map_eq_ok.mp run
  exact ⟨f, compiled, lines, fun record _ => shapes_select_columns compiled 6 record⟩

end Record.Transformer

end TrajectoryFormat
