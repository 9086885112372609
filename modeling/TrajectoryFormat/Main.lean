import TrajectoryFormat.Command.Answer
import TrajectoryFormat.Load.Directory

/-!
# The program

Answers the words of its command line on the files of its system. Nothing is decided here: the
answer is that of `Command.answer`, and this module reads, writes and lists the files that it asks
for.
-/

namespace TrajectoryFormat.Program

open Load

/-- The number of a failure. Some operations report it with a minus sign, in a word of 32 bits. -/
def failureNumber (code : UInt32) : Nat :=
  if 2 * code.toNat < Number.limit32 then code.toNat else Number.limit32 - code.toNat

/-- What the system says of a failure, with its number. -/
def numbered (details : String) (code : UInt32) : Refusal :=
  match failureNumber code with
  | 2 => FileFault.notFound.message
  | 17 => FileFault.exists.message
  | 20 => FileFault.notADirectory.message
  | 21 => FileFault.isADirectory.message
  | number => details.toList ++ " (os error " ++ Number.ofNat number ++ ")"

def refusal : IO.Error → Refusal
  | .alreadyExists _ code details | .otherError code details | .resourceBusy code details
  | .resourceVanished code details | .unsupportedOperation code details
  | .hardwareFault code details | .unsatisfiedConstraints code details
  | .illegalOperation code details | .protocolError code details | .timeExpired code details
  | .interrupted _ code details | .noFileOrDirectory _ code details
  | .invalidArgument _ code details | .permissionDenied _ code details
  | .resourceExhausted _ code details | .inappropriateType _ code details
  | .noSuchThing _ code details => numbered details code
  | .unexpectedEof => "unexpected end of file"
  | .userError details => details.toList

/-- The file that is being written, between its creation and its end. -/
abbrev Writing := StateT (Option IO.FS.Handle) IO

def attempt (operation : IO α) : Writing (Except Refusal α) := do
  match ← operation.toBaseIO with
  | .ok value => pure (.ok value)
  | .error e => pure (.error (refusal e))

/-- Bytes as text, which they must be. -/
def decoded (bytes : ByteArray) : Except Refusal Text :=
  match String.fromUTF8? bytes with
  | some s => .ok s.toList
  | none => .error notTextRefusal

def readText (path : Text) : Writing (Except Refusal Text) := do
  pure ((← attempt (IO.FS.readBinFile path.string)).bind decoded)

def place (path : Text) : IO.FS.DirEntry := { root := path.string, fileName := "" }

/-- The files at and below a path, directories in the order of their names. -/
partial def filesBelow (path : Text) : Writing (Except Refusal (List Text)) := do
  match ← attempt (place path).root.symlinkMetadata with
  | .error reason => pure (.error (listingRefusal path reason))
  | .ok { type := .file, .. } => pure (.ok [path])
  | .ok { type := .dir, .. } =>
    match ← attempt (place path).root.readDir with
    | .error reason => pure (.error (listingRefusal path reason))
    | .ok entries =>
      let names := (entries.toList.map fun entry => entry.fileName.toList).mergeSort Text.isUpTo
      let below ← names.mapM fun name => filesBelow (Path.child path name)
      pure ((below.mapM id).map List.flatten)
  | .ok _ => pure (.ok [])

def makeDirectories (path : Text) : Writing (Except Refusal Unit) := do
  if path.isEmpty then return .ok ()
  let names := path.splitOn '/'
  for count in List.range names.length do
    let parent : Text := ['/'].intercalate (names.take count)
    if !parent.isEmpty then
      let _ ← attempt (IO.FS.createDir parent.string)
  let made ← attempt (IO.FS.createDir path.string)
  if ← (place path).root.isDir then pure (.ok ()) else pure made

def createFile (path : Text) : Writing (Except Refusal Unit) := do
  match ← attempt (IO.FS.Handle.mk path.string .write) with
  | .ok handle => set (some handle); pure (.ok ())
  | .error reason => pure (.error reason)

def appendText (text : Text) : Writing (Except Refusal Unit) := do
  match ← get with
  | some handle => attempt (handle.putStr text.string)
  | none => pure (.ok ())

def finishFile : Writing (Except Refusal Unit) := do
  match ← get with
  | some handle =>
    let written ← attempt handle.flush
    set (none : Option IO.FS.Handle)
    pure written
  | none => pure (.ok ())

def disk : Disk Writing where
  listFiles := filesBelow
  readText := readText
  makeDirectories := makeDirectories
  createFile := createFile
  appendText _ text := appendText text
  finishFile _ := finishFile
  rename source target := attempt (IO.FS.rename source.string target.string)
  removeFile path := attempt (IO.FS.removeFile path.string)
  writeText path text := attempt (IO.FS.writeFile path.string text.string)

/-- All bytes of a stream, after those that are read already. -/
partial def readBytes (stream : IO.FS.Stream) (read : ByteArray) : IO ByteArray := do
  let more ← stream.read 65536
  if more.isEmpty then pure read else readBytes stream (read ++ more)

/-- What stands in the input, unless somebody types it. -/
def input : Writing (Except Refusal (Option Text)) := do
  let stream ← IO.getStdin
  if ← stream.isTty then pure (.ok none)
  else pure (((← attempt (readBytes stream .empty)).bind decoded).map some)

end TrajectoryFormat.Program

open TrajectoryFormat in
def main (words : List String) : IO UInt32 := do
  let asked := Command.answer Program.disk Program.input (words.map String.toList)
  let (answer, _) ← asked.run none
  IO.print answer.output.string
  IO.eprint answer.errors.string
  pure answer.exitCode.toUInt32
