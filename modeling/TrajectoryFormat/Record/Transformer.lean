import TrajectoryFormat.Description.Compile
import TrajectoryFormat.Record.Series
import TrajectoryFormat.Record.Split

/-!
# Records transformed

A transformer is made for a format and an output shape. It turns a record into its line, ID and
coordinates and further attributes parted by semicolons, and into the sample of its trajectory.
Generated IDs are numbered by a counter, which moves once for every record that comes to its ID. The
counter is a natural number where a program has a word of 64 bits, which begins again at zero after
2 ^ 64 records. The two agree as long as fewer records have come to their ID.
-/

namespace TrajectoryFormat.Record

open Description

/-- An axis of the coordinates array: its place among the attributes of a point, and its type. -/
structure Axis where
  index : Nat
  declaredType : Text
deriving DecidableEq

/-- All that is fixed for the records of one dataset. -/
structure Transformer where
  format : DataFormat
  coordinates : ArrayFormat
  x : Axis
  y : Axis
  time : Axis
  timePattern : Option DatePattern
  scale : Decimal
  shape : OutputShape

/-- A record with its line and the sample of its trajectory. -/
structure Transformed where
  line : Text
  sample : Statistics.Sample Float

def axis? (array : ArrayFormat) (index? : Option Nat) : Option Axis := do
  let index ← index?
  let declared ← array.attributes[index]?
  pure ⟨index, declared.declaredType⟩

namespace Transformer

/-- The pattern of the dates of an axis, if it has dates. -/
def patternOf (declaredType : Text) : Except FormatError (Option DatePattern) :=
  if DeclaredType.isDatetime declaredType then
    ((datePattern declaredType).mapError FormatError.declaration).map some
  else .ok none

/-- The factor that makes decimals whole numbers. -/
def scaleOf (precision : Nat) : Except FormatError Decimal :=
  match Decimal.powerOfTen? precision with
  | some scale => .ok scale
  | none =>
    .error (.declaration
      (.command Keyword.decimalPrecision.name (.precisionOutOfRange precision)))

/-- A transformer for a format, if its coordinates array has all three axes, the dates of its time
axis can be read and its scale is in range. -/
def ofFormat (format : DataFormat) (shape : OutputShape) : Except FormatError Transformer := do
  let some coordinates := format.coordinates | throw (.violations [.missingCoordinates])
  let (some x, some y, some time) :=
      (axis? coordinates coordinates.xIndex?, axis? coordinates coordinates.yIndex?,
        axis? coordinates coordinates.timeIndex?)
    | throw (.violations (Facts.missingAxes coordinates))
  let timePattern ← patternOf time.declaredType
  let scale ← scaleOf format.decimalPrecision
  pure { format, coordinates, x, y, time, timePattern, scale, shape }

/-- The values of a record and its items in points, each with an item for every attribute of the
coordinates array. -/
def points (t : Transformer) (values : List Text) : Except RecordError (List (List Text)) := do
  let some text := t.format.coordinatesIndex?.bind (values[·]?) | throw .missingCoordinates
  let items := splitItems t.coordinates text
  let arity := t.coordinates.attributes.length
  if items.isEmpty then throw .emptyCoordinates
  if items.length % arity ≠ 0 then throw (.arityMismatch items.length arity)
  pure (groupsOf arity items)

def column (axis : Axis) (points : List (List Text)) : List Text :=
  points.map fun point => point[axis.index]?.getD []

/-- The series of the three axes, time repaired. -/
structure Axes where
  x : Series
  y : Series
  time : Series

def readAxes (t : Transformer) (points : List (List Text)) : Except RecordError Axes := do
  let x ← Series.ofItems t.x.declaredType (column t.x points)
  let y ← Series.ofItems t.y.declaredType (column t.y points)
  let time ← match t.timePattern with
    | some pattern => Series.ofDates pattern (column t.time points)
    | none => Series.ofItems t.time.declaredType (column t.time points)
  let time ← time.repaired
  pure ⟨x, y, time⟩

def pointFields (t : Transformer) (x y time : Text) (point : List Text) : List Text :=
  match t.shape with
  | .spatial => [x, y]
  | .spatialTemporal => [x, y, time]
  | .all =>
    [x, y, time]
      ++ (point.zipIdx.filter fun (_, i) => t.coordinates.isSemantic i).map (·.1)

def coordinateFields (t : Transformer) (points : List (List Text)) (xs ys times : List Text) :
    List Text :=
  (points.zip (xs.zip (ys.zip times))).flatMap fun (point, x, y, time) =>
    t.pointFields x y time point

/-- The value of an attribute as it is written, arrays with commas between their items. -/
def furtherValue (a : Attribute) (value : Text) : Text :=
  if DeclaredType.isArray a.declaredType then
    flatten (ArrayFormat.ofDeclaration a.declaredType) value
  else value

def furtherFields (t : Transformer) (values : List Text) : List Text :=
  match t.shape with
  | .all =>
    ((t.format.attributes.zip values).zipIdx.filter fun ((a, _), i) => t.format.isFurther i a).map
      fun ((a, value), _) => furtherValue a value
  | _ => []

/-- The ID with number `n`, counted from zero. A numeric prefix is continued within 64 bits. -/
def generatedId (idPrefix : Text) (n : Nat) : Except RecordError Text :=
  match Number.read? Number.limit64 idPrefix with
  | some base =>
    if base + n < Number.limit64 then .ok (Number.ofNat (base + n))
    else .error (.overflow (idPrefix ++ '+' :: Number.ofNat n))
  | none => .ok (idPrefix ++ '_' :: Number.ofNat (n + 1))

/-- The ID of a record, and the counter after it. -/
def resolveId (t : Transformer) (values : List Text) (counter : Nat) :
    Except RecordError Text × Nat :=
  match t.format.autoIdPrefix with
  | some idPrefix => (generatedId idPrefix counter, counter + 1)
  | none => (.ok ((t.format.idIndex?.bind (values[·]?)).getD []), counter)

/-- All of a record but its ID: the coordinates field, and the sample. -/
def body (t : Transformer) (values : List Text) :
    Except RecordError (Text × Statistics.Sample Float) := do
  let points ← t.points values
  let axes ← t.readAxes points
  let xs ← axes.x.compressed t.scale
  let ys ← axes.y.compressed t.scale
  let times ← axes.time.compressed t.scale
  let sample ← (Statistics.Sample.ofDelta axes.x.column axes.y.column axes.time.column).mapError
    .statistics
  pure (Text.join "," (t.coordinateFields points xs ys times), sample)

/-- Transforms a record: the result, and the counter after it. The counter moves only once all else
has succeeded. -/
def prepare (t : Transformer) (counter : Nat) (record : Text) :
    Except RecordError Transformed × Nat :=
  let values := splitValues t.format record
  match t.body values with
  | .error e => (.error e, counter)
  | .ok (coordinates, sample) =>
    let (id, counter) := t.resolveId values counter
    (id.map fun id => ⟨Text.join ";" (id :: coordinates :: t.furtherFields values), sample⟩,
      counter)

end Transformer

end TrajectoryFormat.Record
