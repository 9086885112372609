import TrajectoryFormat.Load.Loader
import TrajectoryFormat.Proofs.AcceptedRecord
import TrajectoryFormat.Proofs.Splitting
import TrajectoryFormat.Proofs.Statistics.AcceptedSamples

/-!
# Batches of prepared records

The records of a file that are accepted, each beside what it became, in order. Their lines are never
empty, so a store keeps all of them, and their samples have the points that the records were cut
into.
-/

namespace TrajectoryFormat

namespace Record.Transformer

/-- The number of points that a record is cut into, none where it is refused. -/
def pointCount (t : Transformer) (record : Text) : Nat :=
  (t.points (splitValues t.format record)).toOption.elim 0 List.length

variable {t : Transformer} {counter : Nat} {record : Text} {done : Transformed}

theorem length_sample_eq_pointCount (accepted : (t.prepare counter record).1 = .ok done) :
    done.sample.points.length = t.pointCount record := by
  obtain ⟨a⟩ := exists_account accepted
  rw [a.length_sample, pointCount, a.points_eq]
  rfl

/-- A line has a semicolon after the ID, so it is not empty. -/
theorem line_ne_nil (accepted : (t.prepare counter record).1 = .ok done) : done.line ≠ [] := by
  obtain ⟨a⟩ := exists_account accepted
  rw [a.line_eq, Text.join_cons_cons, List.append_assoc]
  exact List.append_ne_nil_of_right_ne_nil _ (List.cons_ne_nil _ _)

end Record.Transformer

namespace Load

open Record

/-- The accepted records of a list, each beside what it became, IDs counted from `counter` on. -/
def accepted (t : Transformer) (counter : Nat) : List Text → List (Text × Transformed)
  | [] => []
  | record :: rest =>
    match t.prepare counter record with
    | (.ok done, counter) => (record, done) :: accepted t counter rest
    | (.error _, counter) => accepted t counter rest

def counterAfter (t : Transformer) (counter : Nat) (records : List Text) : Nat :=
  records.foldl (fun counter record => (t.prepare counter record).2) counter

theorem foldl_add (t : Transformer) (b : Batch) (records : List Text) :
    (records.foldl (Batch.add t) b).transformed
        = b.transformed ++ (accepted t b.counter records).map Prod.snd
      ∧ (records.foldl (Batch.add t) b).counter = counterAfter t b.counter records := by
  induction records generalizing b with
  | nil => simp [accepted, counterAfter]
  | cons record rest ih =>
    rw [List.foldl_cons]
    obtain ⟨lines, count⟩ := ih (Batch.add t b record)
    rw [lines, count]
    rcases h : t.prepare b.counter record with ⟨_ | done, counter⟩ <;>
      simp [Batch.add, accepted, counterAfter, h]

theorem ofRecords_eq (t : Transformer) (counter : Nat) (records : List Text) :
    (Batch.ofRecords t counter records).transformed = (accepted t counter records).map Prod.snd
      ∧ (Batch.ofRecords t counter records).counter = counterAfter t counter records := by
  have batch := foldl_add t { counter } records
  rwa [List.nil_append] at batch

theorem prepare_of_mem_accepted {t : Transformer} {counter : Nat} {records : List Text}
    {entry : Text × Transformed} (h : entry ∈ accepted t counter records) :
    ∃ counter, (t.prepare counter entry.1).1 = .ok entry.2 := by
  induction records generalizing counter with
  | nil => simp [accepted] at h
  | cons record rest ih =>
    unfold accepted at h
    split at h
    · next done after prepared =>
      rcases List.mem_cons.mp h with rfl | h
      · exact ⟨counter, by rw [prepared]⟩
      · exact ih h
    · exact ih h

theorem length_accepted_le (t : Transformer) (counter : Nat) (records : List Text) :
    (accepted t counter records).length ≤ records.length := by
  induction records generalizing counter with
  | nil => simp [accepted]
  | cons record rest ih =>
    unfold accepted
    split
    · exact Nat.succ_le_succ (ih _)
    · exact (ih _).trans (Nat.le_succ _)

def kept (records : List Text) : List Text := records.filter (!·.isEmpty)

/-- A store keeps every line of the accepted records. -/
@[simp] theorem kept_lines (t : Transformer) (counter : Nat) (records : List Text) :
    kept ((accepted t counter records).map (·.2.line))
      = (accepted t counter records).map (·.2.line) := by
  rw [kept, List.filter_eq_self]
  intro line h
  obtain ⟨entry, mem, rfl⟩ := List.mem_map.mp h
  obtain ⟨_, prepared⟩ := prepare_of_mem_accepted mem
  simpa using Transformer.line_ne_nil prepared

end Load

end TrajectoryFormat
