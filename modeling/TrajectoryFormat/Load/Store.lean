import TrajectoryFormat.Text

/-!
# Sources, stores and paths

A load reads the lines of files from a source and writes documents into a store. Either may refuse,
and says why. A store takes the records of a document, empty ones left out, and answers how many it
took; when it refuses it keeps none of them.

A path is names parted by slashes. Empty names and single dots say nothing, but for a dot at the
beginning; a slash at the beginning is the root.
-/

namespace TrajectoryFormat.Load

/-- Why a file cannot be read or written, in the words of the system that holds it. -/
abbrev Refusal := Text

/-- Where the files of a load come from. -/
structure Source (m : Type → Type) where
  listFiles : Text → m (Except Refusal (List Text))
  readLines : Text → m (Except Refusal (List Text))

/-- Where the documents of a load go. -/
structure Store (m : Type → Type) where
  writeRecords : Text → List Text → m (Except Refusal Nat)
  writeText : Text → Text → m (Except Refusal Unit)

namespace Path

def names (path : Text) : List Text :=
  (path.splitOn '/').filter fun name => !name.isEmpty && name != ['.']

/-- What a path begins with: the root, a dot, or nothing. -/
def opening (path : Text) : List Text :=
  match path.splitOn '/' with
  | [] :: _ :: _ => ["/"]
  | ['.'] :: _ => ["."]
  | _ => []

def components (path : Text) : List Text := opening path ++ names path

/-- Whether a path lies below a root, or is it. -/
def isBelow (root path : Text) : Bool := (components root).isPrefixOf (components path)

/-- A path below a directory. A name that begins with a slash is a path of its own. -/
def child (directory name : Text) : Text :=
  if name.head? = some '/' then name
  else if directory.isEmpty || directory.getLast? = some '/' then directory ++ name
  else directory ++ '/' :: name

end Path

end TrajectoryFormat.Load
