import Mathlib.Data.Multiset.Bind
import TrajectoryFormat.Proofs.Statistics.ExactAggregates
import TrajectoryFormat.Statistics.Engine

/-!
# Statistics over two passes

The engine folds one trajectory after the other, and keeps neither trajectories nor points. Where
numbers are reckoned with exactly, its report is the one that all trajectories give at once: the
extrema, the mean and the variance of each metric, and the extrema of all points. So it does not
hang on how the trajectories are ordered or put into batches.
-/

namespace TrajectoryFormat.Statistics

/-- What is measured of a trajectory. -/
inductive Metric where
  | pointCount
  | length
  | duration
  | speed
  | samplingRate
deriving DecidableEq, Repr

namespace Metric

variable {α : Type}

def aggregate : Metric → Engine α → Aggregate α
  | pointCount => Engine.pointCount
  | length => Engine.length
  | duration => Engine.duration
  | speed => Engine.speed
  | samplingRate => Engine.samplingRate

def summary : Metric → Report α → Summary α
  | pointCount => Report.pointCount
  | length => Report.length
  | duration => Report.duration
  | speed => Report.speed
  | samplingRate => Report.samplingRate

variable [Measure α]

/-- The number that is folded of a measured trajectory. -/
def folded (metrics : Metrics α) : Metric → α
  | pointCount => Measure.ofNat metrics.points
  | length => metrics.length
  | duration => metrics.duration
  | speed => metrics.speed
  | samplingRate => metrics.samplingRate

@[simp] theorem aggregate_empty (m : Metric) : m.aggregate (.empty : Engine α) = .empty := by
  cases m <;> rfl

@[simp] theorem aggregate_fold (m : Metric) (e : Engine α) (metrics : Metrics α) :
    m.aggregate (e.fold metrics) = (m.aggregate e).add (m.folded metrics) := by
  cases m <;> rfl

@[simp] theorem summary_report (m : Metric) (e : Engine α) :
    m.summary e.report = (m.aggregate e).summary := by
  cases m <;> rfl

end Metric

section Zero
variable {α : Type} [Measure α]

def Summary.zero : Summary α := ⟨Measure.zero, Measure.zero, Measure.zero, Measure.zero⟩

def Point.zero : Point α := ⟨Measure.zero, Measure.zero, Measure.zero⟩

/-- The report on no trajectories. -/
def Report.zero : Report α := ⟨0, 0, .zero, .zero, .zero, .zero, .zero, .zero, .zero⟩

theorem Engine.report_eq_zero {e : Engine α} (trajectories : e.trajectories = 0)
    (points : e.points = 0) (counts : ∀ m : Metric, (m.aggregate e).count = 0) :
    e.report = .zero := by
  have zeros (m : Metric) : m.summary e.report = .zero :=
    (m.summary_report e).trans (if_pos (counts m))
  simp only [Engine.report, Report.zero, Report.mk.injEq]
  refine ⟨trajectories, points, zeros .pointCount, zeros .length, zeros .duration, zeros .speed,
    zeros .samplingRate, ?_, ?_⟩
  · rw [if_pos trajectories, if_pos trajectories, if_pos trajectories, Point.zero]
  · rw [if_pos trajectories, if_pos trajectories, if_pos trajectories, Point.zero]

end Zero

/-- The points of trajectories. -/
def allPoints {α : Type} (samples : Multiset (Sample α)) : Multiset (Point α) :=
  samples.bind fun s => (s.points : Multiset (Point α))

theorem card_allPoints {α : Type} (samples : Multiset (Sample α)) :
    (allPoints samples).card = (samples.map fun s => s.points.length).sum := by
  rw [allPoints, Multiset.card_bind]
  rfl

namespace ExactReading

variable {α K : Type} [Measure α] [Field K] [LinearOrder K] (v : ExactReading α K)
  (distance : Point α → Point α → α)

/-! ## Metrics -/

/-- The way along the points, one after the other. -/
def travelled (points : List (Point α)) : K :=
  ((points.zip points.tail).map fun (p, q) => v.value (distance p q)).sum

/-- The last time less the first. -/
def elapsed (s : Sample α) : K :=
  v.value (s.points.getLast s.points_ne_nil).t - v.value (s.points.head s.points_ne_nil).t

/-- The value of a metric of a trajectory. There is no speed without time, and no sampling rate of
one point. -/
def metric (s : Sample α) : Metric → K
  | .pointCount => s.points.length
  | .length => v.travelled distance s.points
  | .duration => v.elapsed s
  | .speed => if v.elapsed s = 0 then 0 else v.travelled distance s.points / v.elapsed s
  | .samplingRate => if s.points.length < 2 then 0 else v.elapsed s / (s.points.length - 1 : Nat)

theorem value_sumOfPairs (f : Point α → Point α → α) (total : α) (points : List (Point α)) :
    v.value (Metrics.sumOfPairs f total points) = v.value total + v.travelled f points := by
  induction points generalizing total with
  | nil => simp [Metrics.sumOfPairs, travelled]
  | cons p rest ih =>
    cases rest with
    | nil => simp [Metrics.sumOfPairs, travelled]
    | cons q rest =>
      rw [Metrics.sumOfPairs, ih, v.value_add, add_assoc]
      rfl

/-- The times between neighbours add up to the time between the ends. -/
theorem travelled_times (p : Point α) (rest : List (Point α)) :
    v.travelled (fun p q => q.t - p.t) (p :: rest)
      = v.value ((p :: rest).getLast (List.cons_ne_nil p rest)).t - v.value p.t := by
  induction rest generalizing p with
  | nil => simp [travelled]
  | cons q rest ih =>
    have step : v.travelled (fun p q => q.t - p.t) (p :: q :: rest)
        = v.value (q.t - p.t) + v.travelled (fun p q => q.t - p.t) (q :: rest) := rfl
    rw [step, ih, v.value_sub, List.getLast_cons (List.cons_ne_nil q rest)]
    ring

@[simp] theorem value_duration (s : Sample α) :
    v.value (Metrics.sumOfPairs (fun p q => q.t - p.t) Measure.zero s.points) = v.elapsed s := by
  obtain ⟨points, nonempty⟩ := s
  cases points with
  | nil => exact absurd rfl nonempty
  | cons p rest =>
    rw [value_sumOfPairs, v.value_zero, zero_add, travelled_times, elapsed, List.head_cons]

@[simp] theorem value_length (s : Sample α) :
    v.value (Metrics.sumOfPairs distance Measure.zero s.points)
      = v.travelled distance s.points := by
  rw [value_sumOfPairs, v.value_zero, zero_add]

/-- The engine measures what the metrics are. -/
theorem value_folded [IsStrictOrderedRing K] (s : Sample α) (m : Metric) :
    v.value (m.folded (Metrics.ofSample distance s)) = v.metric distance s m := by
  cases m with
  | pointCount => exact v.value_ofNat _
  | length => exact v.value_length distance s
  | duration => exact v.value_duration s
  | speed =>
    have duration := v.value_duration s
    simp only [Metric.folded, Metrics.ofSample, metric, v.isZero_iff, duration]
    split
    · exact v.value_zero
    · next lasting => rw [v.value_div _ _ (duration ▸ lasting), duration, v.value_length]
  | samplingRate =>
    simp only [Metric.folded, Metrics.ofSample, metric]
    split
    · exact v.value_zero
    · next several =>
      have counted : v.value (Measure.ofNat (s.points.length - 1)) ≠ 0 := by
        rw [v.value_ofNat, Nat.cast_ne_zero]
        omega
      rw [v.value_div _ _ counted, v.value_duration, v.value_ofNat]

/-! ## Coverage -/

/-- The coordinates of points on an axis. -/
def onAxis (axis : Point α → α) (points : Multiset (Point α)) : Multiset K :=
  points.map fun p => v.value (axis p)

/-- A coverage keeps the extrema of points on each axis. -/
structure Covers (c : Coverage α) (points : Multiset (Point α)) : Prop where
  x : v.Spans c.x (v.onAxis Point.x points)
  y : v.Spans c.y (v.onAxis Point.y points)
  t : v.Spans c.t (v.onAxis Point.t points)

namespace Covers

variable {v : ExactReading α K} {c d : Coverage α} {points others : Multiset (Point α)}

theorem empty : v.Covers {} 0 := ⟨.empty, .empty, .empty⟩

theorem addPoint (h : v.Covers c points) (p : Point α) :
    v.Covers (c.addPoint p) (p ::ₘ points) := by
  constructor
  · simpa only [Coverage.addPoint, onAxis, Multiset.map_cons] using h.x.add p.x
  · simpa only [Coverage.addPoint, onAxis, Multiset.map_cons] using h.y.add p.y
  · simpa only [Coverage.addPoint, onAxis, Multiset.map_cons] using h.t.add p.t

theorem foldl_addPoint (h : v.Covers c points) (added : List (Point α)) :
    v.Covers (added.foldl Coverage.addPoint c) (added + points) := by
  induction added generalizing c points with
  | nil => simpa using h
  | cons p rest ih =>
    have step := ih (h.addPoint p)
    rwa [Multiset.add_cons, ← Multiset.cons_add, Multiset.cons_coe] at step

/-- Merging feeds the two corners of a coverage back as points. -/
theorem merge (h : v.Covers c points) (other : v.Covers d others) (nonempty : others ≠ 0) :
    v.Covers (c.merge d) (others + points) := by
  have some_place : ∀ axis, v.onAxis axis others ≠ 0 :=
    fun axis none => nonempty (Multiset.map_eq_zero.mp none)
  constructor
  · simpa only [Coverage.merge, onAxis, Multiset.map_add] using h.x.merge other.x (some_place _)
  · simpa only [Coverage.merge, onAxis, Multiset.map_add] using h.y.merge other.y (some_place _)
  · simpa only [Coverage.merge, onAxis, Multiset.map_add] using h.t.merge other.t (some_place _)

end Covers

/-! ## The engine -/

/-- What the engine has kept of the trajectories that were folded, in whatever order. -/
structure Tallies (e : Engine α) (samples : Multiset (Sample α)) : Prop where
  trajectories : e.trajectories = samples.card
  points : e.points = (allPoints samples).card
  metrics : ∀ m : Metric, v.Keeps (m.aggregate e) (samples.map fun s => v.metric distance s m)
  coverage : v.Covers e.coverage (allPoints samples)

namespace Tallies

variable {v : ExactReading α K} {distance : Point α → Point α → α} {e : Engine α}
  {samples : Multiset (Sample α)}

theorem empty (v : ExactReading α K) (distance : Point α → Point α → α) :
    v.Tallies distance .empty 0 where
  trajectories := rfl
  points := rfl
  metrics m := by
    rw [m.aggregate_empty]
    exact .empty v
  coverage := .empty

variable [IsStrictOrderedRing K]

theorem addSample (h : v.Tallies distance e samples) (s : Sample α) :
    v.Tallies distance (e.addSample distance s) (s ::ₘ samples) where
  trajectories := by rw [Multiset.card_cons, ← h.trajectories]; rfl
  points := by
    rw [allPoints, Multiset.cons_bind, Multiset.card_add, ← allPoints, ← h.points,
      Multiset.coe_card, add_comm]
    rfl
  metrics m := by
    rw [Engine.addSample, m.aggregate_fold, Multiset.map_cons, ← v.value_folded distance s m]
    exact (h.metrics m).add _
  coverage := by
    have own : v.Covers (s.points.foldl Coverage.addPoint {}) s.points := by
      simpa only [add_zero] using (Covers.empty (v := v)).foldl_addPoint s.points
    have nonempty : (s.points : Multiset (Point α)) ≠ 0 := by simpa using s.points_ne_nil
    rw [allPoints, Multiset.cons_bind]
    exact h.coverage.merge own nonempty

theorem addSamples (h : v.Tallies distance e samples) (batch : List (Sample α)) :
    v.Tallies distance (e.addSamples distance batch) (batch + samples) := by
  induction batch generalizing e samples with
  | nil => simpa [Engine.addSamples] using h
  | cons s rest ih =>
    have step := ih (h.addSample s)
    rwa [Multiset.add_cons, ← Multiset.cons_add, Multiset.cons_coe] at step

theorem addBatches (h : v.Tallies distance e samples) (batches : List (List (Sample α))) :
    v.Tallies distance (batches.foldl (Engine.addSamples distance) e)
      (batches.flatten + samples) := by
  induction batches generalizing e samples with
  | nil => simpa only [List.foldl_nil, List.flatten_nil, Multiset.coe_nil, zero_add] using h
  | cons batch rest ih =>
    have step := ih (h.addSamples batch)
    rwa [← add_assoc, add_comm (rest.flatten : Multiset (Sample α)), Multiset.coe_add] at step

end Tallies

/-! ## The report -/

theorem mem_onAxis {axis : Point α → α} {samples : Multiset (Sample α)} {x : K} :
    x ∈ v.onAxis axis (allPoints samples) ↔ ∃ s ∈ samples, ∃ p ∈ s.points,
      v.value (axis p) = x := by
  simp only [onAxis, allPoints, Multiset.mem_map, Multiset.mem_bind, Multiset.mem_coe]
  grind

theorem onAxis_ne_zero {samples : Multiset (Sample α)} (nonempty : samples ≠ 0)
    (axis : Point α → α) :
    v.onAxis axis (allPoints samples) ≠ 0 := by
  obtain ⟨s, mem⟩ := Multiset.exists_mem_of_ne_zero nonempty
  obtain ⟨p, place⟩ := List.exists_mem_of_ne_nil _ s.points_ne_nil
  intro none
  exact Multiset.notMem_zero _ (none ▸ v.mem_onAxis.mpr ⟨s, mem, p, place, rfl⟩)

/-- The report of the engine is the one that all trajectories give at once. -/
structure TwoPass (e : Engine α) (samples : Multiset (Sample α)) : Prop where
  trajectories : e.report.trajectories = samples.card
  points : e.report.points = (samples.map fun s => s.points.length).sum
  measured : ∀ s m, v.value (m.folded (Metrics.ofSample distance s)) = v.metric distance s m
  summaries : samples ≠ 0 → ∀ m : Metric, m.summary e.report = (m.aggregate e).summary
    ∧ v.Summarizes (m.aggregate e) (samples.map fun s => v.metric distance s m)
  coverage : samples ≠ 0 → ∀ axis ∈ ([Point.x, Point.y, Point.t] : List (Point α → α)),
    IsLeast {x | ∃ s ∈ samples, ∃ p ∈ s.points, v.value (axis p) = x}
      (v.value (axis e.report.least))
      ∧ IsGreatest {x | ∃ s ∈ samples, ∃ p ∈ s.points, v.value (axis p) = x}
          (v.value (axis e.report.greatest))
  empty : samples = 0 → e.report = .zero

/-- Trajectories that are folded in any order and in any batches are reported as by two passes over
all of them. -/
theorem report_two_pass [IsStrictOrderedRing K] {samples : Multiset (Sample α)}
    {batches : List (List (Sample α))}
    (folded : (batches.flatten : Multiset (Sample α)) = samples) :
    v.TwoPass distance (batches.foldl (Engine.addSamples distance) .empty) samples := by
  have tallies := (Tallies.empty v distance).addBatches batches
  rw [folded, add_zero] at tallies
  generalize batches.foldl (Engine.addSamples distance) .empty = e at tallies
  constructor
  case trajectories => exact tallies.trajectories
  case points => exact tallies.points.trans (card_allPoints samples)
  case measured => exact v.value_folded distance
  case summaries =>
    intro nonempty m
    exact ⟨m.summary_report e, (tallies.metrics m).summarizes (by simpa using nonempty)⟩
  case coverage =>
    intro nonempty axis among
    have counted : e.trajectories ≠ 0 := tallies.trajectories ▸ (Multiset.card_pos.mpr nonempty).ne'
    have some_place := v.onAxis_ne_zero nonempty
    simp only [← v.mem_onAxis, Engine.report, counted, if_false]
    simp only [List.mem_cons, List.not_mem_nil, or_false] at among
    rcases among with rfl | rfl | rfl
    · exact ⟨tallies.coverage.x.least (some_place _), tallies.coverage.x.greatest (some_place _)⟩
    · exact ⟨tallies.coverage.y.least (some_place _), tallies.coverage.y.greatest (some_place _)⟩
    · exact ⟨tallies.coverage.t.least (some_place _), tallies.coverage.t.greatest (some_place _)⟩
  case empty =>
    rintro rfl
    exact Engine.report_eq_zero tallies.trajectories tallies.points fun m =>
      (tallies.metrics m).count

end ExactReading

/-! ## Rational numbers -/

/-- A rational number. -/
structure Rational where
  value : ℚ
deriving DecidableEq

namespace Rational

/-- Roots are exact of squares. -/
instance : Measure Rational where
  add x y := ⟨x.value + y.value⟩
  sub x y := ⟨x.value - y.value⟩
  mul x y := ⟨x.value * y.value⟩
  div x y := ⟨x.value / y.value⟩
  ofNat n := ⟨n⟩
  magnitude x := ⟨|x.value|⟩
  squareRoot x := ⟨mkRat x.value.num.toNat.sqrt x.value.den.sqrt⟩
  less x y := x.value < y.value
  isZero x := x.value = 0
  isNumber _ := true
  aboveAll := ⟨10 ^ 308⟩
  belowAll := ⟨-10 ^ 308⟩

def reading : ExactReading Rational ℚ where
  value := value
  value_add _ _ := rfl
  value_sub _ _ := rfl
  value_mul _ _ := rfl
  value_div _ _ _ := rfl
  value_ofNat _ := rfl
  value_magnitude _ := rfl
  less_iff _ _ := decide_eq_true_iff
  isZero_iff _ := decide_eq_true_iff
  isNumber _ := rfl

/-- The way from point to point along the axes. -/
def alongAxes (p q : Point Rational) : Rational :=
  ⟨|q.x.value - p.x.value| + |q.y.value - p.y.value|⟩

def place (x y t : ℚ) : Point Rational := ⟨⟨x⟩, ⟨y⟩, ⟨t⟩⟩

def walk : Sample Rational := ⟨[place 0 0 10, place 3 0 12, place 3 4 14], List.cons_ne_nil _ _⟩

def stay : Sample Rational := ⟨[place 1 1 5], List.cons_ne_nil _ _⟩

def jump : Sample Rational := ⟨[place 0 0 1, place (-2) 0 1], List.cons_ne_nil _ _⟩

end Rational

open Rational in
/-- Three trajectories, of which one has a single point and one takes no time, in two batches. -/
theorem ExactReading.report_two_pass_of_three :
    let engine := [[walk], [stay, jump]].foldl (Engine.addSamples alongAxes) .empty
    ([[walk], [stay, jump]].flatten : Multiset (Sample Rational))
      = ([stay, jump, walk] : List (Sample Rational))
      ∧ reading.TwoPass alongAxes engine ([stay, jump, walk] : List (Sample Rational))
      ∧ engine.report.length.mean = ⟨3⟩ ∧ engine.length.variance = ⟨26 / 3⟩
      ∧ engine.report.duration.max = ⟨4⟩ ∧ engine.report.speed.max = ⟨7 / 4⟩
      ∧ engine.report.least.x = ⟨-2⟩ ∧ engine.report.points = 6 := by
  have reordered : ([[walk], [stay, jump]].flatten : Multiset (Sample Rational))
      = ([stay, jump, walk] : List (Sample Rational)) :=
    Multiset.coe_eq_coe.mpr (@List.perm_append_comm _ [walk] [stay, jump])
  exact ⟨reordered, reading.report_two_pass alongAxes reordered, by decide +kernel,
    by decide +kernel, by decide +kernel, by decide +kernel, by decide +kernel, by decide +kernel⟩

end TrajectoryFormat.Statistics
