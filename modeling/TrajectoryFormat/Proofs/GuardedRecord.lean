import TrajectoryFormat.Proofs.GuardedReads
import TrajectoryFormat.Proofs.RecordErrors

/-!
# Records prepared by places

Preparing a record reads items, values and delimiters by place, cuts texts from place to place,
combines columns in place, and divides by the number of attributes of the coordinates array. With
every one of these guarded, a record comes to the same result: a fault never happens, and what may
happen is a line or one of the refusals of its items.
-/

namespace TrajectoryFormat.Record

open Checked Description Guarded

/-- A computation that may refuse its record and that is guarded against faults. -/
abbrev Guard (α : Type) := ExceptT RecordError (Except Fault) α

namespace Guard

variable {α β : Type}

/-- A computation without guarded steps. -/
def certain (x : Except RecordError α) : Guard α := ExceptT.mk (.ok x)

theorem certain_bind {x : Except RecordError α} {f : α → Guard β} {g : α → Except RecordError β}
    (h : ∀ a, x = .ok a → f a = certain (g a)) : certain x >>= f = certain (x >>= g) := by
  cases x with
  | error e => rfl
  | ok a => exact h a rfl

/-- A guarded step that succeeds gives its value to the next. -/
theorem lift_bind {x : Except Fault α} {a : α} (succeeds : x = .ok a) (f : α → Guard β) :
    (liftM x : Guard α) >>= f = f a := by
  rw [succeeds]
  rfl

end Guard

open Guard

/-! ## Values and items -/

/-- Cuts a text by places: at the first occurrence of a delimiter, and after it. -/
def guardedCut (delimiter text : Text) : Except Fault (Option (Text × Text)) :=
  match (cutAt? delimiter text).map fun (before, _) => before.length with
  | none => .ok none
  | some i => do
    let before ← upTo text i
    let rest ← onFrom text (i + delimiter.length)
    pure (some (before, rest))

theorem guardedCut_eq (delimiter text : Text) :
    guardedCut delimiter text = .ok (cutAt? delimiter text) := by
  unfold guardedCut
  cases found : cutAt? delimiter text with
  | none => rfl
  | some parts =>
    obtain ⟨before, rest⟩ := parts
    have occurs : Text.cut? delimiter text = some (before, rest) := by
      unfold cutAt? at found
      split at found
      · cases found
      · exact found
    have text_eq := Text.cut?_eq_some occurs
    have front : upTo text before.length = .ok before := by
      rw [upTo, if_pos (by simp [text_eq]), text_eq, List.append_assoc, List.take_left]
    have back : onFrom text (before.length + delimiter.length) = .ok rest := by
      rw [onFrom, if_pos (by simp [text_eq]), text_eq, ← List.length_append, List.drop_left]
    simp only [Option.map_some, front, back]
    rfl

def guardedRawValues : Option Text → List Attribute → Except Fault (List Text)
  | _, [] => .ok []
  | none, _ :: attributes => (guardedRawValues none attributes).map ([] :: ·)
  | some text, a :: attributes => do
    match ← guardedCut a.delimiter text with
    | some (value, rest) => (guardedRawValues (some rest) attributes).map (value :: ·)
    | none => (guardedRawValues none attributes).map (text :: ·)

theorem guardedRawValues_eq (text? : Option Text) (attributes : List Attribute) :
    guardedRawValues text? attributes = .ok (rawValues text? attributes) := by
  induction attributes generalizing text? with
  | nil => cases text? <;> rfl
  | cons a attributes ih =>
    cases text? with
    | none =>
      rw [guardedRawValues, ih, rawValues]
      rfl
    | some text =>
      rw [guardedRawValues, guardedCut_eq, rawValues]
      simp only [bind, Except.bind, ih]
      cases cutAt? a.delimiter text <;> rfl

def guardedValues (f : DataFormat) (record : Text) : Except Fault (List Text) :=
  (guardedRawValues (some record) f.attributes).map
    (f.attributes.zipWith (fun a value => if a.isIgnored then [] else value))

theorem guardedValues_eq (f : DataFormat) (record : Text) :
    guardedValues f record = .ok (splitValues f record) := by
  rw [guardedValues, guardedRawValues_eq]
  rfl

/-- The items of a text from the item with number `k` on, each delimiter read at its place in
turn. -/
def guardedItemsFrom (delimiters : List Text) (k : Nat) (text : Text) : Except Fault (List Text) :=
  do
  let size ← divisor delimiters.length
  let delimiter ← item delimiters (k % size)
  match found : guardedCut delimiter text with
  | .error fault => .error fault
  | .ok none => .ok [text]
  | .ok (some (shown, rest)) => (guardedItemsFrom delimiters (k + 1) rest).map (shown :: ·)
termination_by text.length
decreasing_by
  rw [guardedCut_eq, Except.ok.injEq] at found
  exact cutAt?_length found

theorem guardedItemsFrom_eq {delimiters : List Text} (some_delimiter : delimiters ≠ []) (k : Nat)
    (text : Text) : guardedItemsFrom delimiters k text = .ok (itemsFrom delimiters k text) := by
  have positive := List.length_pos_iff.mpr some_delimiter
  induction length : text.length using Nat.strongRecOn generalizing k text with
  | ind n ih =>
    subst length
    have here : item delimiters (k % delimiters.length)
        = .ok (delimiters[k % delimiters.length]?.getD []) := by
      have bound := Nat.mod_lt k positive
      exact item_eq (by rw [List.getElem?_eq_getElem bound, Option.getD_some])
    rw [guardedItemsFrom, divisor_eq positive]
    simp only [bind, Except.bind, here]
    split
    · next fault found =>
      rw [guardedCut_eq] at found
      cases found
    · next found =>
      rw [guardedCut_eq, Except.ok.injEq] at found
      rw [itemsFrom_last found]
    · next shown rest found =>
      rw [guardedCut_eq, Except.ok.injEq] at found
      rw [itemsFrom_cut found, ih _ (cutAt?_length found) _ _ rfl]
      rfl

def guardedItems (array : ArrayFormat) (text : Text) : Except Fault (List Text) :=
  if array.attributes.isEmpty then .ok []
  else (guardedItemsFrom (array.attributes.map Attribute.delimiter) 0 text).map dropEmptyLast

theorem guardedItems_eq (array : ArrayFormat) (text : Text) :
    guardedItems array text = .ok (splitItems array text) := by
  unfold guardedItems splitItems
  split
  · rfl
  · next filled =>
    rw [guardedItemsFrom_eq (by simpa using filled)]
    rfl

/-! ## Columns of numbers -/

namespace Series

def guardedRepaired : Series → Guard Series
  | numeric values false isDecimal => do
    let raised ← sweepAll (fun v previous => if v.lt previous then previous else v) values
    pure (numeric raised false isDecimal)
  | numeric values true isDecimal => do
    match ← sweep Decimal.add? values with
    | .error decoded => throw (overflowOf decoded)
    | .ok absolute =>
      let raised ← sweepAll (fun v previous => if v.lt previous then previous else v) absolute
      pure (numeric raised false isDecimal)
  | text values => pure (text values)

theorem monotonic_eq (values : List Decimal) :
    monotonic values = Delta.decode (fun v previous => if v.lt previous then previous else v)
      values := by
  have following : ∀ previous rest,
      climb previous rest
        = Delta.sums (fun v previous => if v.lt previous then previous else v) previous rest := by
    intro previous rest
    induction rest generalizing previous with
    | nil => rfl
    | cons v rest ih => rw [climb, Delta.sums, ih]
  cases values with
  | nil => rfl
  | cons v rest => rw [monotonic, Delta.decode, following]

theorem guardedRepaired_eq (s : Series) : s.guardedRepaired = certain s.repaired := by
  match s with
  | numeric values false isDecimal =>
    rw [guardedRepaired, lift_bind (sweepAll_eq _ _), repaired, monotonic_eq]
    rfl
  | numeric values true isDecimal =>
    rw [guardedRepaired, lift_bind (sweep_eq _ _), repaired]
    cases Delta.checkedDecode Decimal.add? values with
    | error decoded => rfl
    | ok absolute =>
      simp only [lift_bind (sweepAll_eq _ _), monotonic_eq]
      rfl
  | text values => rfl

def guardedCompressed (scale : Decimal) : Series → Guard (List Text)
  | text values => pure values
  | numeric values isDelta isDecimal => do
    let coded ←
      if isDelta then pure values
      else do
        match ← sweepBack Decimal.sub? values with
        | some coded => pure coded
        | none => throw (overflowOf values)
    let written ← certain (coded.mapM (whole (if isDecimal then some scale else none)))
    pure (written.map Number.ofInt)

theorem guardedCompressed_eq (scale : Decimal) (s : Series) :
    s.guardedCompressed scale = certain (s.compressed scale) := by
  cases s with
  | text values => rfl
  | numeric values isDelta isDecimal =>
    unfold guardedCompressed compressed
    cases isDelta with
    | true =>
      simp only [if_true, pure_bind]
      exact certain_bind fun written _ => rfl
    | false =>
      simp only [Bool.false_eq_true, if_false, lift_bind (sweepBack_eq _ _)]
      cases Delta.encode? Decimal.sub? values with
      | none => rfl
      | some coded =>
        simp only [pure_bind]
        exact certain_bind fun written _ => rfl

end Series

/-- The absolute values of a column, decoded in place. -/
def guardedAbsolute (c : Statistics.Column Float) : Except Fault (List Float) :=
  if c.isDelta then sweepAll (· + ·) c.values else .ok c.values

theorem guardedAbsolute_eq (c : Statistics.Column Float) : guardedAbsolute c = .ok c.absolute := by
  unfold guardedAbsolute Statistics.Column.absolute
  split
  · exact sweepAll_eq _ _
  · rfl

def guardedSample (xs ys ts : Statistics.Column Float) : Guard (Statistics.Sample Float) := do
  let xs ← guardedAbsolute xs
  let ys ← guardedAbsolute ys
  let ts ← guardedAbsolute ts
  certain ((Statistics.Sample.ofColumns xs ys ts).mapError .statistics)

theorem guardedSample_eq (xs ys ts : Statistics.Column Float) :
    guardedSample xs ys ts
      = certain ((Statistics.Sample.ofDelta xs ys ts).mapError .statistics) := by
  rw [guardedSample, lift_bind (guardedAbsolute_eq xs), lift_bind (guardedAbsolute_eq ys),
    lift_bind (guardedAbsolute_eq ts)]
  rfl

/-! ## Points -/

namespace Transformer

variable {f : DataFormat} {shape : OutputShape} {t : Transformer} {items : List Text}
  {points : List (List Text)}

def guardedPoints (t : Transformer) (values : List Text) : Guard (List (List Text)) := do
  let some text := t.format.coordinatesIndex?.bind (values[·]?) | throw .missingCoordinates
  let items ← guardedItems t.coordinates text
  if items.isEmpty then throw .emptyCoordinates
  -- the remainder and the groups are both taken by this number
  let arity ← divisor t.coordinates.attributes.length
  if items.length % arity ≠ 0 then throw (.arityMismatch items.length arity)
  pure (groupsOf arity items)

theorem guardedPoints_eq (made : ofFormat f shape = .ok t) (values : List Text) :
    t.guardedPoints values = certain (t.points values) := by
  unfold guardedPoints points
  cases t.format.coordinatesIndex?.bind (values[·]?) with
  | none => rfl
  | some text =>
    have divides : divisor t.coordinates.attributes.length = .ok t.coordinates.attributes.length :=
      divisor_eq (arity_pos made)
    simp only [lift_bind (guardedItems_eq t.coordinates text), lift_bind divides]
    split_ifs <;> rfl

def guardedColumn (axis : Axis) (points : List (List Text)) : Except Fault (List Text) :=
  points.mapM fun point => item point axis.index

theorem guardedColumn_eq (made : ofFormat f shape = .ok t) (h : t.PointsOf items points)
    (d : Dimension) :
    guardedColumn (t.axis d) points = .ok (column (t.axis d) points) := by
  apply mapM_eq
  intro point mem
  have bound : (t.axis d).index < point.length := h.sizes point mem ▸ index_lt_arity made d
  exact item_eq (by rw [List.getElem?_eq_getElem bound, Option.getD_some])

def guardedAxes (t : Transformer) (points : List (List Text)) : Guard Axes := do
  let xs ← guardedColumn t.x points
  let x ← certain (Series.ofItems t.x.declaredType xs)
  let ys ← guardedColumn t.y points
  let y ← certain (Series.ofItems t.y.declaredType ys)
  let times ← guardedColumn t.time points
  let time ← certain (match t.timePattern with
    | some pattern => Series.ofDates pattern times
    | none => Series.ofItems t.time.declaredType times)
  let time ← time.guardedRepaired
  pure ⟨x, y, time⟩

theorem guardedAxes_eq (made : ofFormat f shape = .ok t) (h : t.PointsOf items points) :
    t.guardedAxes points = certain (t.readAxes points) := by
  have xs : guardedColumn t.x points = .ok (column t.x points) := guardedColumn_eq made h .x
  have ys : guardedColumn t.y points = .ok (column t.y points) := guardedColumn_eq made h .y
  have times : guardedColumn t.time points = .ok (column t.time points) :=
    guardedColumn_eq made h .time
  rw [guardedAxes, lift_bind xs, readAxes_eq, rawAxes, bind_assoc]
  refine certain_bind fun x _ => ?_
  rw [lift_bind ys, bind_assoc]
  refine certain_bind fun y _ => ?_
  rw [lift_bind times, bind_assoc]
  refine certain_bind fun time _ => ?_
  rw [Series.guardedRepaired_eq]
  exact certain_bind fun _ _ => rfl

/-- The fields of the point with number `k`, its coordinates read at this place of their columns. -/
def guardedPointFields (t : Transformer) (xs ys times : List Text) (k : Nat) (point : List Text) :
    Except Fault (List Text) := do
  let x ← item xs k
  let y ← item ys k
  match t.shape with
  | .spatial => pure (t.pointFields x y [] point)
  | _ =>
    let time ← item times k
    pure (t.pointFields x y time point)

def guardedCoordinateFields (t : Transformer) (points : List (List Text))
    (xs ys times : List Text) :
    Except Fault (List Text) :=
  (points.zipIdx.mapM fun (point, k) => t.guardedPointFields xs ys times k point).map List.flatten

theorem guardedCoordinateFields_eq (t : Transformer) {xs ys times : List Text}
    (hx : xs.length = points.length) (hy : ys.length = points.length)
    (htime : times.length = points.length) :
    t.guardedCoordinateFields points xs ys times = .ok (t.coordinateFields points xs ys times) := by
  have each : ∀ place ∈ points.zipIdx,
      (fun (point, k) => t.guardedPointFields xs ys times k point : List Text × Nat → _) place
        = .ok (t.pointFields (xs[place.2]?.getD []) (ys[place.2]?.getD []) (times[place.2]?.getD [])
            place.1) := by
    rintro ⟨point, k⟩ mem
    have bound : k < points.length := List.snd_lt_of_mem_zipIdx mem
    have read : ∀ {values : List Text}, values.length = points.length →
        item values k = .ok (values[k]?.getD []) := by
      intro values length
      exact item_eq (by rw [List.getElem?_eq_getElem (length ▸ bound), Option.getD_some])
    simp only [guardedPointFields, read hx, read hy, read htime, bind, Except.bind]
    cases shape : t.shape <;> simp [pointFields, shape, pure, Except.pure]
  rw [guardedCoordinateFields, mapM_eq each, coordinateFields, List.flatMap_def]
  refine congrArg (fun rows => Except.ok (List.flatten rows)) ?_
  refine List.ext_getElem (by simp [hx, hy, htime]) fun k here there => ?_
  have bound : k < points.length := by simpa using here
  simp [hx, hy, htime, bound]

/-! ## Records -/

def guardedBody (t : Transformer) (values : List Text) : Guard (Text × Statistics.Sample Float) :=
  do
  let points ← t.guardedPoints values
  let axes ← t.guardedAxes points
  let xs ← axes.x.guardedCompressed t.scale
  let ys ← axes.y.guardedCompressed t.scale
  let times ← axes.time.guardedCompressed t.scale
  let fields ← t.guardedCoordinateFields points xs ys times
  let sample ← guardedSample axes.x.column axes.y.column axes.time.column
  pure (Text.join "," fields, sample)

theorem guardedBody_eq (made : ofFormat f shape = .ok t) {record : Text}
    (shown : t.items? record = some items) :
    t.guardedBody (splitValues t.format record)
      = certain (t.body (splitValues t.format record)) := by
  rw [guardedBody, guardedPoints_eq made, body]
  refine certain_bind fun points reached => ?_
  have held := pointsOf_of_points made shown reached
  rw [guardedAxes_eq made held]
  refine certain_bind fun axes read => ?_
  have lengths : ∀ {s : Series} {texts : List Text}, s.length = points.length →
      s.compressed t.scale = .ok texts → texts.length = points.length :=
    fun length written => (Series.length_compressed written).trans length
  simp only [Series.guardedCompressed_eq, guardedSample_eq]
  refine certain_bind fun xs hx => certain_bind fun ys hy => certain_bind fun times htime => ?_
  rw [lift_bind (t.guardedCoordinateFields_eq (lengths (length_readAxes read .x) hx)
    (lengths (length_readAxes read .y) hy) (lengths (length_readAxes read .time) htime))]
  exact certain_bind fun sample _ => rfl

/-- Prepares a record with every read and every division guarded. -/
def guardedPrepare (t : Transformer) (counter : Nat) (record : Text) :
    Except Fault (Except RecordError Transformed × Nat) := do
  let values ← guardedValues t.format record
  match ← (t.guardedBody values).run with
  | .error e => pure (.error e, counter)
  | .ok (coordinates, sample) =>
    let (id, counter) := t.resolveId values counter
    pure (id.map fun id => ⟨Text.join ";" (id :: coordinates :: t.furtherFields values), sample⟩,
      counter)

theorem guardedPrepare_eq (made : ofFormat f shape = .ok t) {record : Text}
    (shown : t.items? record = some items) (counter : Nat) :
    t.guardedPrepare counter record = .ok (t.prepare counter record) := by
  rw [guardedPrepare, guardedValues_eq]
  simp only [bind, Except.bind, guardedBody_eq made shown, prepare]
  cases t.body (splitValues t.format record) <;> rfl

end Transformer

namespace Session

open Transformer

variable {tokens : List Token} {shape : OutputShape} {s : Session}

/-- What preparing a record comes to: a sample with a point for every group of its items, one at
least, or a refusal of these items. -/
def Outcome (t : Transformer) (items : List Text) : Except RecordError Transformed → Prop
  | .ok done =>
    items.length % t.arity = 0 ∧ done.sample.points.length = items.length / t.arity
      ∧ 1 ≤ done.sample.points.length
  | .error e => t.Refusal items e ∧ e ≠ .missingCoordinates ∧ ∀ error, e ≠ .statistics error

/-- Preparing a record never faults, ends in a sample of its points or in a refusal of its items,
and leaves the statistics alone, whatever tokens the format was built from. -/
theorem prepare_outcome (made : ofFormat (DataFormat.ofTokens tokens) shape = .ok s.transformer)
    (record : Text) :
    s.transformer.guardedPrepare s.counter record = .ok (s.transformer.prepare s.counter record)
      ∧ (∃ items, s.transformer.items? record = some items
        ∧ Outcome s.transformer items (s.prepare record).1)
      ∧ (s.prepare record).2.engine = s.engine := by
  obtain ⟨items, shown⟩ := exists_items made record
  refine ⟨guardedPrepare_eq made shown s.counter, ⟨items, shown, ?_⟩, rfl⟩
  change Outcome s.transformer items (s.transformer.prepare s.counter record).1
  cases result : (s.transformer.prepare s.counter record).1 with
  | ok done =>
    obtain ⟨a⟩ := exists_account result
    have held := pointsOf_of_points made shown a.points_eq
    have count := a.length_sample.trans held.length_eq
    refine ⟨held.even, count, ?_⟩
    rw [a.length_sample]
    exact List.length_pos_iff.mpr held.some_point
  | error e =>
    have refused := prepare_eq_error made shown result
    refine ⟨refused, ?_, ?_⟩
    · rintro rfl
      cases refused
    · rintro error rfl
      cases refused

/-- Tokens that no description has: the delimiters are long, and the places of an axis are words. -/
def looseTokens : List Token :=
  [⟨"_COORDINATES", .attribute⟩,
    ⟨"ARRAY(_TIME DATETIME[\"yyyy-MM-dd\"] :: _X STRING , _Y DECIMAL ;;)", .text⟩,
    ⟨"<end>", .comment⟩, .endOfLine]

def looseRecord : Text := "2020-03-02::west,2.5;;2020-03-01::east,1<end>of the record"

theorem prepare_outcome_loose :
    ∃ t, ofFormat (DataFormat.ofTokens looseTokens) .all = .ok t
      ∧ (t.prepare 7 looseRecord).1.map (fun done => (done.line, done.sample.points.length))
        = .ok (";west,250000,1583107200000,east,-150000,0", 2)
      ∧ t.guardedPrepare 7 looseRecord = .ok (t.prepare 7 looseRecord)
      ∧ (∃ items, t.items? looseRecord = some items
        ∧ Outcome t items ((⟨t, .euclidean, 7, .empty⟩ : Session).prepare looseRecord).1)
      ∧ ((⟨t, .euclidean, 7, .empty⟩ : Session).prepare looseRecord).2.engine = .empty := by
  have run : (ofFormat (DataFormat.ofTokens looseTokens) .all).map
      (fun t => (t.prepare 7 looseRecord).1.map fun done => (done.line, done.sample.points.length))
      = .ok (.ok (";west,250000,1583107200000,east,-150000,0", 2)) := by
    decide +kernel
  obtain ⟨t, made, line⟩ := map_eq_ok.mp run
  exact ⟨t, made, line, prepare_outcome (s := ⟨t, .euclidean, 7, .empty⟩) made looseRecord⟩

end Session

end TrajectoryFormat.Record
