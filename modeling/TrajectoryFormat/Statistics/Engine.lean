import TrajectoryFormat.Delta
import TrajectoryFormat.Number.Digits
import TrajectoryFormat.Statistics.Aggregate
import TrajectoryFormat.Statistics.Distance

/-!
# The statistics of a dataset

A sample holds the points of one trajectory. The engine measures a sample and folds five measures of
it into running aggregates, and its points into the coverage of the dataset. A report shows what has
been folded so far. Trajectories and points are counted in natural numbers, which agree with words
of 64 bits as long as there are fewer than 2 ^ 64 of either.
-/

namespace TrajectoryFormat.Statistics

/-- Why three columns make no sample. -/
inductive StatisticsError where
  | emptyTrajectory
  | lengthMismatch (x y t : Nat)
deriving DecidableEq, Repr

def StatisticsError.message : StatisticsError → Text
  | emptyTrajectory => "Values for statistics computation must not be empty"
  | lengthMismatch x y t =>
    "X, Y and Time values must be of same size (got " ++ Number.ofNat x ++ ", " ++ Number.ofNat y
      ++ " and " ++ Number.ofNat t ++ ")"

/-- The points of one trajectory, at least one. -/
structure Sample (α : Type) where
  points : List (Point α)
  points_ne_nil : points ≠ []

/-- A column of values, delta-coded or not. -/
structure Column (α : Type) where
  values : List α
  isDelta : Bool := false

namespace Column

variable {α : Type} [Measure α]

def absolute (c : Column α) : List α := if c.isDelta then Delta.decode (· + ·) c.values
  else c.values

end Column

namespace Sample

variable {α : Type} [Measure α]

def zipPoints (xs ys ts : List α) : List (Point α) :=
  (xs.zip (ys.zip ts)).map fun (x, y, t) => ⟨x, y, t⟩

/-- The sample with three columns of coordinates, equally long and not empty. -/
def ofColumns (xs ys ts : List α) : Except StatisticsError (Sample α) :=
  if xs.isEmpty || ys.isEmpty || ts.isEmpty then .error .emptyTrajectory
  else if xs.length ≠ ys.length ∨ xs.length ≠ ts.length then
    .error (.lengthMismatch xs.length ys.length ts.length)
  else
    let points := zipPoints xs ys ts
    if h : points ≠ [] then .ok ⟨points, h⟩ else .error .emptyTrajectory

/-- The sample with three columns of which some may be delta-coded. -/
def ofDelta (xs ys ts : Column α) : Except StatisticsError (Sample α) :=
  ofColumns xs.absolute ys.absolute ts.absolute

end Sample

/-- The part of space and time that points lie in. -/
structure Coverage (α : Type) where
  x : Range α := {}
  y : Range α := {}
  t : Range α := {}

namespace Coverage

variable {α : Type} [Measure α]

def addPoint (c : Coverage α) (p : Point α) : Coverage α :=
  ⟨c.x.add p.x, c.y.add p.y, c.t.add p.t⟩

def merge (c d : Coverage α) : Coverage α := ⟨c.x.merge d.x, c.y.merge d.y, c.t.merge d.t⟩

end Coverage

/-- What is measured of one trajectory. -/
structure Metrics (α : Type) where
  points : Nat
  length : α
  duration : α
  speed : α
  samplingRate : α
  coverage : Coverage α

namespace Metrics

variable {α : Type} [Measure α]

/-- The sum of `f` over neighbouring points, from the first pair on. -/
def sumOfPairs (f : Point α → Point α → α) (total : α) : List (Point α) → α
  | p :: q :: rest => sumOfPairs f (total + f p q) (q :: rest)
  | _ => total

/-- Measures the points of a trajectory. No speed is had without time, and no sampling rate by a
single point. -/
def ofSample (distance : Point α → Point α → α) (s : Sample α) : Metrics α :=
  let length := sumOfPairs distance Measure.zero s.points
  let duration := sumOfPairs (fun p q => q.t - p.t) Measure.zero s.points
  let count := s.points.length
  { points := count
    length
    duration
    speed := if Measure.isZero duration then Measure.zero else length / duration
    samplingRate := if count < 2 then Measure.zero else duration / Measure.ofNat (count - 1)
    coverage := s.points.foldl Coverage.addPoint {} }

end Metrics

/-- What has been folded of the trajectories of a dataset. -/
structure Engine (α : Type) where
  trajectories : Nat
  points : Nat
  pointCount : Aggregate α
  length : Aggregate α
  duration : Aggregate α
  speed : Aggregate α
  samplingRate : Aggregate α
  coverage : Coverage α

/-- The statistics of a dataset as they are reported. -/
structure Report (α : Type) where
  trajectories : Nat
  points : Nat
  pointCount : Summary α
  length : Summary α
  duration : Summary α
  speed : Summary α
  samplingRate : Summary α
  least : Point α
  greatest : Point α

namespace Engine

variable {α : Type} [Measure α]

def empty : Engine α := ⟨0, 0, .empty, .empty, .empty, .empty, .empty, {}⟩

def fold (e : Engine α) (m : Metrics α) : Engine α :=
  { trajectories := e.trajectories + 1
    points := e.points + m.points
    pointCount := e.pointCount.add (Measure.ofNat m.points)
    length := e.length.add m.length
    duration := e.duration.add m.duration
    speed := e.speed.add m.speed
    samplingRate := e.samplingRate.add m.samplingRate
    coverage := e.coverage.merge m.coverage }

def addSample (distance : Point α → Point α → α) (e : Engine α) (s : Sample α) : Engine α :=
  e.fold (Metrics.ofSample distance s)

/-- Folds a batch. All of its samples are measured before the first is folded. -/
def addSamples (distance : Point α → Point α → α) (e : Engine α) (samples : List (Sample α)) :
    Engine α :=
  (samples.map (Metrics.ofSample distance)).foldl fold e

theorem addSamples_eq_foldl (distance : Point α → Point α → α) (e : Engine α)
    (samples : List (Sample α)) :
    e.addSamples distance samples = samples.foldl (addSample distance) e := List.foldl_map

/-- Folds three columns, if they make a sample. -/
def addColumns (distance : Point α → Point α → α) (e : Engine α) (xs ys ts : Column α) :
    Except StatisticsError (Engine α) :=
  (Sample.ofDelta xs ys ts).map (e.addSample distance)

/-- The statistics so far, all zero before the first trajectory. -/
def report (e : Engine α) : Report α :=
  let covered (bound : α) : α := if e.trajectories = 0 then Measure.zero else bound
  let c := e.coverage
  { trajectories := e.trajectories
    points := e.points
    pointCount := e.pointCount.summary
    length := e.length.summary
    duration := e.duration.summary
    speed := e.speed.summary
    samplingRate := e.samplingRate.summary
    least := ⟨covered c.x.low, covered c.y.low, covered c.t.low⟩
    greatest := ⟨covered c.x.high, covered c.y.high, covered c.t.high⟩ }

end Engine

end TrajectoryFormat.Statistics
