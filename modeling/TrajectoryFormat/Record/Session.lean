import TrajectoryFormat.Record.Transformer

/-!
# Transformers at work

A session is a transformer with what it keeps between records: the counter of generated IDs, and the
statistics of the dataset. A record is prepared, which leaves the statistics as they are, or
transformed, which also counts its trajectory.
-/

namespace TrajectoryFormat.Record

/-- A transformer between two records. -/
structure Session where
  transformer : Transformer
  distance : Statistics.Distance
  counter : Nat := 0
  engine : Statistics.Engine Float := .empty

/-- What a session is asked to do with a record. -/
inductive Call where
  | prepare (record : Text)
  | transform (record : Text)
deriving DecidableEq

def Call.record : Call → Text
  | prepare record | transform record => record

namespace Session

def prepare (s : Session) (record : Text) : Except RecordError Transformed × Session :=
  let (result, counter) := s.transformer.prepare s.counter record
  (result, { s with counter })

/-- The session with one more trajectory in its statistics. -/
def count (s : Session) (sample : Statistics.Sample Float) : Session :=
  { s with engine := s.engine.addSample s.distance.between sample }

def transform (s : Session) (record : Text) : Except RecordError Text × Session :=
  match s.prepare record with
  | (.ok done, s) => (.ok done.line, s.count done.sample)
  | (.error e, s) => (.error e, s)

/-- The line that a call gives, and the session after it. -/
def call (s : Session) : Call → Except RecordError Text × Session
  | .prepare record =>
    let (result, s) := s.prepare record
    (result.map Transformed.line, s)
  | .transform record => s.transform record

/-- What each of a list of calls gives, and the session after the last. -/
def run (s : Session) : List Call → List (Except RecordError Text) × Session
  | [] => ([], s)
  | call :: rest =>
    let (answer, s) := s.call call
    let (answers, s) := s.run rest
    (answer :: answers, s)

end Session

end TrajectoryFormat.Record
