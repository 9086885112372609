import TrajectoryFormat.Statistics.Engine

/-!
# Engines at work

An engine is asked to take in trajectories, by their columns, by a sample or by a batch of samples,
and it is asked to report. Columns that make no sample are refused.
-/

namespace TrajectoryFormat.Statistics

/-- What an engine is asked to do. -/
inductive Call (α : Type) where
  | columns (xs ys ts : List α)
  | coded (xs ys ts : Column α)
  | sample (s : Sample α)
  | batch (samples : List (Sample α))
  | report

/-- What an engine answers. -/
inductive Answer (α : Type) where
  | taken
  | refused (error : StatisticsError)
  | report (report : Report α)

namespace Engine

variable {α : Type} [Measure α] (distance : Point α → Point α → α)

/-- Folds three columns of absolute values, if they make a sample. -/
def addTrajectory (e : Engine α) (xs ys ts : List α) : Except StatisticsError (Engine α) :=
  (Sample.ofColumns xs ys ts).map (e.addSample distance)

/-- The engine after columns have been folded, or as it was where they are refused. -/
def settle (e : Engine α) : Except StatisticsError (Engine α) → Answer α × Engine α
  | .ok e => (.taken, e)
  | .error error => (.refused error, e)

/-- The answer to a call, and the engine after it. -/
def call (e : Engine α) : Call α → Answer α × Engine α
  | .columns xs ys ts => e.settle (e.addTrajectory distance xs ys ts)
  | .coded xs ys ts => e.settle (e.addColumns distance xs ys ts)
  | .sample s => (.taken, e.addSample distance s)
  | .batch samples => (.taken, e.addSamples distance samples)
  | .report => (.report e.report, e)

/-- The answers to a list of calls, and the engine after the last. -/
def run (e : Engine α) : List (Call α) → List (Answer α) × Engine α
  | [] => ([], e)
  | call :: rest =>
    let (answer, e) := e.call distance call
    let (answers, e) := e.run rest
    (answer :: answers, e)

end Engine

end TrajectoryFormat.Statistics
