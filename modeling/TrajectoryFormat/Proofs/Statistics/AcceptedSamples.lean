import TrajectoryFormat.Proofs.SampleColumns
import TrajectoryFormat.Proofs.Statistics.TwoPass
import TrajectoryFormat.Statistics.Call

/-!
# Samples that an engine accepts

However an engine is fed, it ends as if it had been given the accepted samples one at a time.
Columns count as the points that they spell once deltas are decoded, and they are refused where one
of them is empty or their lengths differ. A refusal and a report leave the engine as it was.
-/

namespace TrajectoryFormat.Statistics

namespace Sample

variable {α : Type} {xs ys ts : List α} {s : Sample α} {error : StatisticsError}

theorem map_x_zipPoints (hy : ys.length = xs.length) (ht : ts.length = xs.length) :
    (zipPoints xs ys ts).map Point.x = xs := by
  calc (zipPoints xs ys ts).map Point.x
      = (xs.zip (ys.zip ts)).map Prod.fst := by
        simp only [zipPoints, List.map_map, Function.comp_def]
    _ = xs := List.map_fst_zip (by simp [hy, ht])

theorem map_y_zipPoints (hy : ys.length = xs.length) (ht : ts.length = xs.length) :
    (zipPoints xs ys ts).map Point.y = ys := by
  calc (zipPoints xs ys ts).map Point.y
      = ((xs.zip (ys.zip ts)).map Prod.snd).map Prod.fst := by
        simp only [zipPoints, List.map_map, Function.comp_def]
    _ = (ys.zip ts).map Prod.fst := by rw [List.map_snd_zip (by simp [hy, ht])]
    _ = ys := List.map_fst_zip (by rw [hy, ht])

/-- A sample whose points have these three columns. -/
structure Spells (s : Sample α) (xs ys ts : List α) : Prop where
  x : s.points.map Point.x = xs
  y : s.points.map Point.y = ys
  t : s.points.map Point.t = ts

theorem spells_of_ofColumns (made : ofColumns xs ys ts = .ok s) : s.Spells xs ys ts := by
  obtain ⟨_, hy, ht, points⟩ := ofColumns_eq_ok.mp made
  exact ⟨points ▸ map_x_zipPoints hy ht, points ▸ map_y_zipPoints hy ht,
    points ▸ map_t_zipPoints hy ht⟩

/-- Why columns make no sample, an empty one first. -/
inductive Refusal (xs ys ts : List α) : StatisticsError → Prop
  | empty (some_empty : xs = [] ∨ ys = [] ∨ ts = []) : Refusal xs ys ts .emptyTrajectory
  | uneven (filled : xs ≠ [] ∧ ys ≠ [] ∧ ts ≠ [])
      (differ : xs.length ≠ ys.length ∨ xs.length ≠ ts.length) :
      Refusal xs ys ts (.lengthMismatch xs.length ys.length ts.length)

theorem refusal_of_ofColumns (refused : ofColumns xs ys ts = .error error) :
    Refusal xs ys ts error := by
  unfold ofColumns at refused
  split at refused
  · next empty =>
    cases refused
    simp only [Bool.or_eq_true, List.isEmpty_iff, or_assoc] at empty
    exact .empty empty
  · next filled =>
    simp only [Bool.or_eq_true, List.isEmpty_iff, not_or, and_assoc] at filled
    split at refused
    · next uneven =>
      cases refused
      exact .uneven filled uneven
    · next even =>
      simp only [ne_eq, not_or, not_not] at even
      dsimp only at refused
      split at refused
      · cases refused
      · next none =>
        rw [not_not] at none
        have length := length_zipPoints even.1.symm even.2.symm
        rw [none] at length
        exact absurd (List.length_eq_zero_iff.mp length.symm) filled.1

end Sample

variable {α : Type} [Measure α]

/-- What a column stands for: its values as they are, or at every place of a delta-coded column what
its values up to there add up to from the left. -/
structure Column.StandsFor (c : Column α) (xs : List α) : Prop where
  length : xs.length = c.values.length
  plain : c.isDelta = false → xs = c.values
  coded : c.isDelta = true → ∀ {first rest}, c.values = first :: rest →
    ∀ k ≤ rest.length, xs[k]? = some ((rest.take k).foldl (flip (· + ·)) first)

theorem Column.standsFor_absolute (c : Column α) : c.StandsFor c.absolute := by
  rcases c with ⟨values, _ | _⟩
  · exact ⟨rfl, fun _ => rfl, nofun⟩
  · refine ⟨Delta.length_decode _ values, nofun, ?_⟩
    rintro - first rest rfl k bound
    exact Delta.getElem?_decode_eq_foldl _ first bound

namespace Call

/-- The columns that a call brings, deltas decoded. -/
def columns? : Call α → Option (List α × List α × List α)
  | .columns xs ys ts => some (xs, ys, ts)
  | .coded xs ys ts => some (xs.absolute, ys.absolute, ts.absolute)
  | _ => none

/-- The samples that a call has an engine take in. -/
def accepted : Call α → List (Sample α)
  | .columns xs ys ts => (Sample.ofColumns xs ys ts).toOption.toList
  | .coded xs ys ts => (Sample.ofDelta xs ys ts).toOption.toList
  | .sample s => [s]
  | .batch samples => samples
  | .report => []

/-- How an engine ends a call: the answer, and the samples that are taken in. -/
inductive Ends (e : Engine α) (c : Call α) : Answer α → List (Sample α) → Prop
  | taken {xs ys ts s} (brought : c.columns? = some (xs, ys, ts))
      (spells : Sample.Spells s xs ys ts) :
      Ends e c .taken [s]
  | refused {xs ys ts error} (brought : c.columns? = some (xs, ys, ts))
      (why : Sample.Refusal xs ys ts error) :
      Ends e c (.refused error) []
  | sample {s} (given : c = .sample s) : Ends e c .taken [s]
  | batch {samples} (given : c = .batch samples) : Ends e c .taken samples
  | report (asked : c = .report) : Ends e c (.report e.report) []

theorem Ends.eq_nil {e : Engine α} {c : Call α} {answer : Answer α} {samples : List (Sample α)}
    (h : c.Ends e answer samples) (unchanged : (∃ error, answer = .refused error) ∨ c = .report) :
    samples = [] := by
  rcases unchanged with ⟨error, rfl⟩ | rfl
  · cases h
    rfl
  · cases h with
    | taken brought => cases brought
    | refused | report => rfl
    | sample given => cases given
    | batch given => cases given

end Call

namespace Engine

variable (distance : Point α → Point α → α) (e : Engine α)

/-- Columns are taken in as the sample that they make, or refused. -/
theorem settle_ends {c : Call α} {xs ys ts : List α} (brought : c.columns? = some (xs, ys, ts))
    (accepted : c.accepted = (Sample.ofColumns xs ys ts).toOption.toList) :
    c.Ends e (e.settle (e.addTrajectory distance xs ys ts)).1 c.accepted
      ∧ (e.settle (e.addTrajectory distance xs ys ts)).2 = c.accepted.foldl
        (addSample distance) e := by
  rw [accepted, addTrajectory]
  cases made : Sample.ofColumns xs ys ts with
  | error error => exact ⟨.refused brought (Sample.refusal_of_ofColumns made), rfl⟩
  | ok s => exact ⟨.taken brought (Sample.spells_of_ofColumns made), rfl⟩

/-- A call ends as it should, and folds what it accepts. -/
theorem call_ends (c : Call α) :
    c.Ends e (e.call distance c).1 c.accepted
      ∧ (e.call distance c).2 = c.accepted.foldl (addSample distance) e := by
  cases c with
  | columns xs ys ts => exact e.settle_ends distance rfl rfl
  | coded xs ys ts => exact e.settle_ends distance rfl rfl
  | sample s => exact ⟨.sample rfl, rfl⟩
  | batch samples => exact ⟨.batch rfl, addSamples_eq_foldl distance e samples⟩
  | report => exact ⟨.report rfl, rfl⟩

@[simp] theorem run_cons (c : Call α) (rest : List (Call α)) :
    e.run distance (c :: rest)
      = ((e.call distance c).1 :: ((e.call distance c).2.run distance rest).1,
          ((e.call distance c).2.run distance rest).2) := rfl

theorem run_append (calls more : List (Call α)) :
    e.run distance (calls ++ more)
      = ((e.run distance calls).1 ++ ((e.run distance calls).2.run distance more).1,
          ((e.run distance calls).2.run distance more).2) := by
  induction calls generalizing e with
  | nil => rfl
  | cons c rest ih => rw [List.cons_append, run_cons, ih, run_cons, List.cons_append]

@[simp] theorem length_answers (calls : List (Call α)) :
    (e.run distance calls).1.length = calls.length := by
  induction calls generalizing e with
  | nil => rfl
  | cons c rest ih => rw [run_cons, List.length_cons, ih, List.length_cons]

/-- A run folds the samples that its calls accept, in order. -/
theorem run_eq_foldl (calls : List (Call α)) :
    (e.run distance calls).2 = (calls.flatMap Call.accepted).foldl (addSample distance) e := by
  induction calls generalizing e with
  | nil => rfl
  | cons c rest ih =>
    rw [run_cons, ih, (e.call_ends distance c).2, List.flatMap_cons, List.foldl_append]

/-! ## Counters -/

/-- Folding samples counts one trajectory for each, and all their points. -/
theorem addSamples_counts (samples : List (Sample α)) :
    (e.addSamples distance samples).trajectories = e.trajectories + samples.length
      ∧ (e.addSamples distance samples).points
          = e.points + (samples.map fun s => s.points.length).sum := by
  induction samples generalizing e with
  | nil => exact ⟨rfl, rfl⟩
  | cons s rest ih =>
    obtain ⟨trajectories, points⟩ := ih (e.addSample distance s)
    constructor
    · rw [addSamples_eq_foldl, List.foldl_cons, ← addSamples_eq_foldl, trajectories,
        List.length_cons]
      simp only [addSample, fold]
      omega
    · rw [addSamples_eq_foldl, List.foldl_cons, ← addSamples_eq_foldl, points, List.map_cons,
        List.sum_cons]
      simp only [addSample, fold, Metrics.ofSample]
      omega

/-- Every aggregate has counted as many values as there are trajectories. -/
def InStep (e : Engine α) : Prop := ∀ m : Metric, (m.aggregate e).count = e.trajectories

variable {e}

theorem InStep.addSample (h : e.InStep) (s : Sample α) : (e.addSample distance s).InStep := by
  intro m
  rw [Engine.addSample, m.aggregate_fold, Aggregate.add, h m]
  rfl

theorem InStep.foldl (h : e.InStep) (samples : List (Sample α)) :
    (samples.foldl (Engine.addSample distance) e).InStep := by
  induction samples generalizing e with
  | nil => exact h
  | cons s rest ih => exact ih (h.addSample distance s)

theorem inStep_empty : (empty : Engine α).InStep := fun m => by rw [m.aggregate_empty]; rfl

/-- After any calls an engine is what the accepted samples make of it, one at a time, with its
counters in step. Each call ends as it should at its place in the run, and a refusal and a report
leave the engine as it was. A coded call brings what its columns stand for. -/
theorem run_one_by_one (calls : List (Call α)) :
    let last := (empty.run distance calls).2
    last = (calls.flatMap Call.accepted).foldl (addSample distance) empty
      ∧ (∀ m : Metric, (m.aggregate last).count = last.trajectories)
      ∧ last.trajectories = (calls.flatMap Call.accepted).length
      ∧ (∀ before c after, calls = before ++ c :: after →
          ∃ answer, (empty.run distance calls).1[before.length]? = some answer
            ∧ c.Ends (empty.run distance before).2 answer c.accepted
            ∧ ((∃ error, answer = .refused error) ∨ c = .report →
                (empty.run distance (before ++ [c])).2 = (empty.run distance before).2))
      ∧ ∀ x y t, .coded x y t ∈ calls →
          ∃ xs ys ts, (Call.coded x y t).columns? = some (xs, ys, ts)
            ∧ x.StandsFor xs ∧ y.StandsFor ys ∧ t.StandsFor ts := by
  intro last
  have folded : last = (calls.flatMap Call.accepted).foldl (addSample distance) empty :=
    run_eq_foldl _ _ _
  refine ⟨folded, ?_, ?_, ?_, ?_⟩
  · rw [folded]
    exact inStep_empty.foldl distance _
  · rw [folded, ← addSamples_eq_foldl, (addSamples_counts distance empty _).1]
    exact Nat.zero_add _
  · rintro before c after rfl
    obtain ⟨ends, folds⟩ := call_ends distance (empty.run distance before).2 c
    refine ⟨_, ?_, ends, fun unchanged => ?_⟩
    · rw [run_append, List.getElem?_append_right (by rw [length_answers]), length_answers,
        Nat.sub_self]
      rfl
    · rw [run_append, run_cons]
      show ((empty.run distance before).2.call distance c).2 = _
      rw [folds, ends.eq_nil unchanged]
      rfl
  · intro x y t _
    exact ⟨_, _, _, rfl, x.standsFor_absolute, y.standsFor_absolute, t.standsFor_absolute⟩

open Rational

/-- A walk by its differences and a batch, with refused columns and a report between them. -/
def mixedCalls : List (Call Rational) :=
  [.coded ⟨[⟨0⟩, ⟨3⟩, ⟨0⟩], true⟩ ⟨[⟨0⟩, ⟨0⟩, ⟨4⟩], false⟩ ⟨[⟨10⟩, ⟨2⟩, ⟨2⟩], true⟩,
    .coded ⟨[⟨1⟩, ⟨1⟩], true⟩ ⟨[⟨1⟩], false⟩ ⟨[⟨1⟩, ⟨1⟩], true⟩, .columns [⟨1⟩] [] [⟨1⟩], .report,
    .batch [stay, jump]]

theorem run_one_by_one_of_mixedCalls :
    let last := (empty.run alongAxes mixedCalls).2
    (mixedCalls.flatMap Call.accepted).map Sample.points = [walk.points, stay.points, jump.points]
      ∧ last = (mixedCalls.flatMap Call.accepted).foldl (addSample alongAxes) empty
      ∧ (∀ m : Metric, (m.aggregate last).count = 3) ∧ last.trajectories = 3
      ∧ (empty.run alongAxes (mixedCalls.take 2)).2
        = (empty.run alongAxes (mixedCalls.take 1)).2 := by
  obtain ⟨folded, inStep, counted, ends, _⟩ := run_one_by_one alongAxes mixedCalls
  have taken : (mixedCalls.flatMap Call.accepted).map Sample.points
      = [walk.points, stay.points, jump.points] := by
    decide +kernel
  have three : (empty.run alongAxes mixedCalls).2.trajectories = 3 :=
    counted.trans (by simpa using congrArg List.length taken)
  obtain ⟨answer, here, _, unchanged⟩ := ends (mixedCalls.take 1) _ (mixedCalls.drop 2) rfl
  have refused : answer = .refused (.lengthMismatch 2 1 2) := Option.some.inj (here.symm.trans rfl)
  exact ⟨taken, folded, fun m => (inStep m).trans three, three, unchanged (.inl ⟨_, refused⟩)⟩

end Engine

end TrajectoryFormat.Statistics
