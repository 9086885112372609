import TrajectoryFormat.Load.Store
import TrajectoryFormat.Text.Cut

/-!
# Files on a disk

The operations on files that a load needs, and a source and a store made of them. The records of a
document are written under another name first, which is taken away again when a step is refused, and
moved to their own name at the end.
-/

namespace TrajectoryFormat.Load

/-- The operations on files. Each may be refused. -/
structure Disk (m : Type → Type) where
  listFiles : Text → m (Except Refusal (List Text))
  readText : Text → m (Except Refusal Text)
  makeDirectories : Text → m (Except Refusal Unit)
  createFile : Text → m (Except Refusal Unit)
  appendText : Text → Text → m (Except Refusal Unit)
  finishFile : Text → m (Except Refusal Unit)
  rename : Text → Text → m (Except Refusal Unit)
  removeFile : Text → m (Except Refusal Unit)
  writeText : Text → Text → m (Except Refusal Unit)

def notTextRefusal : Refusal := "stream did not contain valid UTF-8"

def listingRefusal (path : Text) (refusal : Refusal) : Refusal :=
  "IO error for operation on " ++ path ++ ": " ++ refusal

namespace Disk

variable {m : Type → Type} [Monad m]

def source (disk : Disk m) : Source m where
  listFiles := disk.listFiles
  readLines path := do
    match ← disk.readText path with
    | .ok text => pure (.ok (Text.lines text))
    | .error refusal => pure (.error refusal)

/-- Appends lines to a file, up to the first that is refused. -/
def appendLines (disk : Disk m) (path : Text) : List Text → m (Except Refusal Unit)
  | [] => pure (.ok ())
  | line :: rest => do
    match ← disk.appendText path (line ++ ['\n']) with
    | .ok () => appendLines disk path rest
    | .error refusal => pure (.error refusal)

def writeLines (disk : Disk m) (path : Text) (lines : List Text) : m (Except Refusal Unit) := do
  match ← disk.createFile path with
  | .error refusal => pure (.error refusal)
  | .ok () =>
    match ← disk.appendLines path lines with
    | .error refusal => pure (.error refusal)
    | .ok () => disk.finishFile path

/-- Writes a file of lines under the name of a draft, and moves it to its own name. -/
def writeThrough (disk : Disk m) (draft path : Text) (lines : List Text) :
    m (Except Refusal Unit) := do
  match ← disk.writeLines draft lines with
  | .error refusal => pure (.error refusal)
  | .ok () => disk.rename draft path

/-- Writes the records of a document that are not empty. A draft that comes to nothing is
removed. -/
def writeRecords (disk : Disk m) (root name : Text) (records : List Text) :
    m (Except Refusal Nat) := do
  let lines := records.filter (!·.isEmpty)
  let draft := Path.child root (name ++ ".part")
  match ← disk.writeThrough draft (Path.child root name) lines with
  | .ok () => pure (.ok lines.length)
  | .error refusal =>
    let _ ← disk.removeFile draft
    pure (.error refusal)

def store (disk : Disk m) (root : Text) : Store m where
  writeRecords name records := disk.writeRecords root name records
  writeText name content := disk.writeText (Path.child root name) content

end Disk

end TrajectoryFormat.Load
