import TrajectoryFormat.Command.Topic
import TrajectoryFormat.Description.Document
import TrajectoryFormat.Load.Disk
import TrajectoryFormat.Load.Loader

/-!
# The work of the commands

Checking a description, loading the files of a directory by it, and looking up a topic of the
manual.
-/

namespace TrajectoryFormat.Command

open Load

/-- Why a command fails. -/
inductive CommandError where
  | format (error : FormatError)
  | load (error : LoadError)
  | file (refusal : Refusal)
  | noInput
  | unknownTopic (name : Text)
deriving DecidableEq

namespace CommandError

def message : CommandError → Text
  | format error => error.message
  | load error => "Load error: " ++ error.message
  | file refusal => "IO error: " ++ refusal
  | noInput => "No data format provided. Pass a TDDF file or pipe one to stdin."
  | unknownTopic name =>
    "Unknown topic: '" ++ name ++ "'\nRun 'tddf docs' to see available topics."

def source? : CommandError → Option Text
  | format error => some error.message
  | load error => some error.message
  | file refusal => some refusal
  | noInput => none
  | unknownTopic _ => none

end CommandError

/-- The result of some work, and what was logged of it. -/
structure Outcome (α : Type) where
  result : Except CommandError α
  log : List LogEntry

/-- Compiles a description, which must not be missing or blank. -/
def check (description : Option Text) : Outcome DataFormat :=
  match description with
  | none => ⟨.error .noInput, []⟩
  | some text =>
    if Text.isAllBlank text then ⟨.error .noInput, []⟩
    else
      let compiled := compile text
      ⟨compiled.result.mapError .format, compiled.log⟩

def loaderOf (description : Text) (shape? : Option OutputShape) :
    Except LoadError Loader × List LogEntry :=
  let compiled := compile description
  let loader := do
    let format ← compiled.result.mapError .format
    Loader.ofFormat format shape?
  (loader, compiled.log)

/-- What a load is told: where the description, the files and the output are, and the shape of the
records where it is not that of the description. -/
structure LoadRequest where
  format : Text
  input : Text
  output : Text
  shape? : Option OutputShape
deriving DecidableEq

/-- Loads the files of a directory of a disk into another. -/
def load {m : Type → Type} [Monad m] (disk : Disk m) (request : LoadRequest) :
    m (Outcome LoadReport) := do
  match ← disk.readText request.format with
  | .error refusal => pure ⟨.error (.file refusal), []⟩
  | .ok description =>
    match loaderOf description request.shape? with
    | (.error e, log) => pure ⟨.error (.load e), log⟩
    | (.ok loader, log) =>
      match ← disk.makeDirectories request.output with
      | .error refusal => pure ⟨.error (.file refusal), log⟩
      | .ok () =>
        let run ← loader.load disk.source (disk.store request.output) request.input
        pure ⟨run.result.mapError .load, log ++ run.log⟩

/-- The page of a topic of the manual, or its overview. -/
def manual : Option Text → Except CommandError Text
  | none => .ok overview
  | some name =>
    match Topic.ofName? name with
    | some topic => .ok topic.page
    | none => .error (.unknownTopic name)

end TrajectoryFormat.Command
