import TrajectoryFormat.Command.Arguments

/-!
# Answers

What the program prints for a request, and the code it ends with: zero, one where the request fails,
two where the words are no request. The log goes before the error.
-/

namespace TrajectoryFormat.Command

open Load

/-- What the program prints, and the code it ends with. -/
structure Answer where
  exitCode : Nat
  output : Text
  errors : Text
deriving DecidableEq

def withLineEnd (s : Text) : Text := s ++ ['\n']

/-- Lines, each with its end. -/
def logText (log : List LogEntry) : Text := log.flatMap fun entry => withLineEnd entry.render

/-- The answer that work comes to, `display` telling what is printed of its result. -/
def Outcome.answer (outcome : Outcome α) (display : α → Text) : Answer :=
  match outcome.result with
  | .ok value => ⟨0, display value, logText outcome.log⟩
  | .error e => ⟨1, [], logText outcome.log ++ withLineEnd e.message⟩

def formatText (json : Bool) (f : DataFormat) : Text :=
  withLineEnd <|
    if json then f.toJson.render
    else "Data format is valid: " ++ Number.ofNat f.validAttributes ++ " attributes, output "
      ++ f.outputShape.name

def countsLine (r : LoadReport) : Text :=
  Number.ofNat r.files ++ " files (" ++ Number.ofNat r.failedFiles ++ " failed), "
    ++ Number.ofNat r.recordsWritten ++ " records written, " ++ Number.ofNat r.recordsDropped
    ++ " dropped"

def reportText (json : Bool) (r : LoadReport) : Text :=
  withLineEnd (if json then r.toJson.render else withLineEnd (countsLine r) ++ r.metadata)

variable {m : Type → Type} [Monad m]

/-- The description that a check is given: that of a file, or what stands in the input. -/
def descriptionOf (disk : Disk m) (input : m (Except Refusal (Option Text))) :
    Option Text → m (Except Refusal (Option Text))
  | none => input
  | some file => do
    match ← disk.readText file with
    | .ok text => pure (.ok (some text))
    | .error refusal => pure (.error refusal)

def Request.answer (disk : Disk m) (input : m (Except Refusal (Option Text))) : Request → m Answer
  | .check file? json => do
    match ← descriptionOf disk input file? with
    | .error refusal =>
      pure ((⟨.error (.file refusal), []⟩ : Outcome DataFormat).answer (formatText json))
    | .ok description => pure ((Command.check description).answer (formatText json))
  | .load request json => do
    let outcome ← Command.load disk request
    pure (outcome.answer (reportText json))
  | .overview => pure ((⟨manual none, []⟩ : Outcome Text).answer id)
  | .topic name => pure ((⟨manual (some name), []⟩ : Outcome Text).answer id)

def answer (disk : Disk m) (input : m (Except Refusal (Option Text))) (words : List Text) :
    m Answer :=
  match Request.ofWords words with
  | .ok request => request.answer disk input
  | .error e => pure ⟨2, [], withLineEnd e.message⟩

end TrajectoryFormat.Command
