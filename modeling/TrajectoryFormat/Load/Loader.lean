import TrajectoryFormat.Load.Store
import TrajectoryFormat.Output.Metadata
import TrajectoryFormat.Record.Segment
import TrajectoryFormat.Record.Transformer

/-!
# Loads

A loader transforms every file of a source into a document of a store, one file after the other, and
writes the descriptor and the metadata last. A record that fails is left out, and so is a file. The
trajectories of a file are counted once its records are stored. Statistics and generated IDs carry
over from one run to the next. Files and records are counted in natural numbers, which agree with
words of 64 bits as long as there are fewer than 2 ^ 64 of either.
-/

namespace TrajectoryFormat.Load

open Record

/-- Why a load fails. -/
inductive LoadError where
  | format (error : FormatError)
  | unsupportedCoordinateSystem (name : Text)
  | discovery (root : Text) (refusal : Refusal)
  | allFilesFailed (files : Nat)
  | outputWrite (name : Text) (refusal : Refusal)
deriving DecidableEq

namespace LoadError

def message : LoadError → Text
  | format error => "Invalid data format: " ++ error.message
  | unsupportedCoordinateSystem name => "Unsupported coordinate system: '" ++ name ++ "'"
  | discovery root refusal => "Unable to list input files in '" ++ root ++ "': " ++ refusal
  | allFilesFailed 0 => "No input files found"
  | allFilesFailed files =>
    "None of the " ++ Number.ofNat files ++ " input files could be parsed"
  | outputWrite name refusal => "Unable to save '" ++ name ++ "': " ++ refusal

def source? : LoadError → Option Text
  | format error => some error.message
  | discovery _ refusal => some refusal
  | outputWrite _ refusal => some refusal
  | _ => none

end LoadError

/-- Why a file is left out. -/
inductive FileError where
  | read (path : Text) (refusal : Refusal)
  | write (path : Text) (refusal : Refusal)
deriving DecidableEq

def FileError.message : FileError → Text
  | read path refusal => "Unable to read '" ++ path ++ "': " ++ refusal
  | write path refusal => "Unable to save records of '" ++ path ++ "': " ++ refusal

/-- What a run that succeeds tells. -/
structure LoadReport where
  files : Nat
  failedFiles : Nat
  recordsWritten : Nat
  recordsDropped : Nat
  statistics : Statistics.Report Float
  descriptor : Text
  metadata : Text

def LoadReport.toJson (r : LoadReport) : Json :=
  .object [
    ("files", .number r.files),
    ("failed_files", .number r.failedFiles),
    ("records_written", .number r.recordsWritten),
    ("records_dropped", .number r.recordsDropped),
    ("trajectories", .number r.statistics.trajectories),
    ("statistics", r.statistics.toJson)]

/-- A loader between runs: what is fixed for its dataset, and what carries over. -/
structure Loader where
  transformer : Transformer
  distance : Statistics.Distance
  counter : Nat
  engine : Statistics.Engine Float
  cancelled : Bool

/-- A run: its result, the loader after it, and its log. -/
structure Run where
  result : Except LoadError LoadReport
  loader : Loader
  log : List LogEntry

/-- What a run has done so far: the loader, its counts and its log. -/
structure Progress where
  loader : Loader
  failedFiles : Nat := 0
  recordsWritten : Nat := 0
  recordsDropped : Nat := 0
  log : List LogEntry := []

/-- The digits of a number, at least five. -/
def fiveDigits (n : Nat) : Text :=
  let digits := Number.ofNat n
  List.replicate (5 - digits.length) '0' ++ digits

/-- The name of the document that the records of file number `index` go to. -/
def dataFileName (index : Nat) : Text := "data_file_" ++ fiveDigits index ++ ".csv"

/-- The transformed records of a file, in order, and what is logged of the others. -/
structure Batch where
  counter : Nat
  transformed : List Transformed := []
  log : List LogEntry := []

def Batch.add (t : Transformer) (b : Batch) (record : Text) : Batch :=
  match t.prepare b.counter record with
  | (.ok done, counter) => { b with counter, transformed := b.transformed ++ [done] }
  | (.error e, counter) =>
    let entry := LogEntry.warning ("Record ignored: " ++ e.message ++ " (" ++ record ++ ")")
    { b with counter, log := b.log ++ [entry] }

def Batch.ofRecords (t : Transformer) (counter : Nat) (records : List Text) : Batch :=
  records.foldl (Batch.add t) { counter }

namespace Loader

/-- A loader for a format. The shape of its records is that of the format unless another is
given. -/
def ofFormat (format : DataFormat) (shape? : Option OutputShape) : Except LoadError Loader := do
  let some system := format.coordinateSystem?
    | throw (.unsupportedCoordinateSystem format.coordinateSystemName)
  let transformer ← (Transformer.ofFormat format (shape?.getD format.outputShape)).mapError .format
  pure ⟨transformer, .ofSystem system, 0, .empty, false⟩

/-- The loader that leaves out every file it has not begun. -/
def cancel (l : Loader) : Loader := { l with cancelled := true }

/-- The loader after the trajectories of a file have been stored. -/
def count (l : Loader) (samples : List (Statistics.Sample Float)) : Loader :=
  { l with engine := l.engine.addSamples l.distance.between samples }

end Loader

namespace Progress

def failed (p : Progress) (e : FileError) : Progress :=
  { p with
    failedFiles := p.failedFiles + 1
    log := p.log ++ [.failure ("File ignored: " ++ e.message)] }

/-- A file that has been transformed. Its IDs are used up, stored or not. -/
def transformed (p : Progress) (b : Batch) : Progress :=
  { p with loader := { p.loader with counter := b.counter }, log := p.log ++ b.log }

/-- A file of `total` records of which `written` have been stored. -/
def stored (p : Progress) (b : Batch) (total written : Nat) : Progress :=
  { p with
    loader := p.loader.count (b.transformed.map Transformed.sample)
    recordsWritten := p.recordsWritten + written
    recordsDropped := p.recordsDropped + (total - written) }

def heed (p : Progress) (asked : Bool) : Progress :=
  if asked then { p with loader := p.loader.cancel } else p

variable {m : Type → Type} [Monad m]

/-- Transforms file number `index` and stores its records. -/
def loadFile (source : Source m) (store : Store m) (p : Progress) (path : Text) (index : Nat) :
    m Progress := do
  match ← source.readLines path with
  | .error refusal => pure (p.failed (.read path refusal))
  | .ok lines =>
    let transformer := p.loader.transformer
    let records := segments transformer.format lines
    let batch := Batch.ofRecords transformer p.loader.counter records
    let p := p.transformed batch
    match ← store.writeRecords (dataFileName index) (batch.transformed.map Transformed.line) with
    | .error refusal => pure (p.failed (.write path refusal))
    | .ok written => pure (p.stored batch records.length written)

/-- Transforms the files from number `index` on, none of them after a cancellation. Before each file
the run looks whether a cancellation has been asked for. -/
def loadFiles (source : Source m) (store : Store m) (asked : m Bool) (p : Progress) (index : Nat) :
    List Text → m Progress
  | [] => pure p
  | path :: rest => do
    let p := p.heed (← asked)
    if p.loader.cancelled then pure p
    else
      let p ← loadFile source store p path index
      loadFiles source store asked p (index + 1) rest

end Progress

namespace Loader

variable {m : Type → Type} [Monad m]

/-- Writes a generated document: what is logged, and the error if the store refuses it. -/
def writeDocument (store : Store m) (name content : Text) : m (Except LoadError Unit) := do
  match ← store.writeText name content with
  | .ok () => pure (.ok ())
  | .error refusal => pure (.error (.outputWrite name refusal))

def documentLog : Except LoadError Unit → List LogEntry
  | .ok () => []
  | .error e => [.failure e.message]

def reportOf (p : Progress) (files : Nat) : LoadReport :=
  let t := p.loader.transformer
  let statistics := p.loader.engine.report
  { files
    failedFiles := p.failedFiles
    recordsWritten := p.recordsWritten
    recordsDropped := p.recordsDropped
    statistics
    descriptor := Output.descriptor t.format t.shape
    metadata := Output.metadata t.format t.shape files statistics }

/-- Ends a run: writes both documents, unless every file has failed. The first refusal counts. -/
def finish (store : Store m) (p : Progress) (files : Nat) : m Run := do
  if p.failedFiles = files then pure ⟨.error (.allFilesFailed files), p.loader, p.log⟩
  else
    let report := reportOf p files
    let descriptor ← writeDocument store Output.descriptorName report.descriptor
    let metadata ← writeDocument store Output.metadataName report.metadata
    let result := do
      descriptor
      metadata
      pure report
    pure ⟨result, p.loader, p.log ++ documentLog descriptor ++ documentLog metadata⟩

/-- One run: transforms every file that the source lists under `root` into the store, until somebody
has `asked` for a cancellation. -/
def loadUntil (l : Loader) (asked : m Bool) (source : Source m) (store : Store m) (root : Text) :
    m Run := do
  match ← source.listFiles root with
  | .error refusal => pure ⟨.error (.discovery root refusal), l, []⟩
  | .ok files =>
    let p ← Progress.loadFiles source store asked { loader := l } 0 files
    finish store p files.length

/-- One run during which nobody asks for a cancellation. -/
def load (l : Loader) (source : Source m) (store : Store m) (root : Text) : m Run :=
  l.loadUntil (pure false) source store root

end Loader

end TrajectoryFormat.Load
