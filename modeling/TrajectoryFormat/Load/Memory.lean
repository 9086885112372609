import TrajectoryFormat.Load.Store

/-!
# Sources and stores in memory

Files held in memory, listed by their root, some of them unreadable; and a shelf of documents that
takes what its rules allow.
-/

namespace TrajectoryFormat.Load

/-- Files in memory: a path and its lines, or no lines where the file cannot be read. -/
structure Folder where
  files : List (Text × Option (List Text))
  isListed : Bool := true

namespace Folder

def list (f : Folder) (root : Text) : Except Refusal (List Text) :=
  if f.isListed then .ok ((f.files.map (·.1)).filter (Path.isBelow root))
  else .error "listing refused"

def read (f : Folder) (path : Text) : Except Refusal (List Text) :=
  match (f.files.find? (·.1 == path)).bind (·.2) with
  | some lines => .ok lines
  | none => .error "unreadable"

def source (f : Folder) {m : Type → Type} [Monad m] : Source m where
  listFiles root := pure (f.list root)
  readLines path := pure (f.read path)

end Folder

/-- Documents in memory: the records of some, the text of others. -/
structure Shelf where
  records : List (Text × List Text) := []
  documents : List (Text × Text) := []
deriving DecidableEq

/-- What a shelf refuses: text documents by name, and the records of one document beyond a
number. -/
structure ShelfRules where
  rejected : List Text := []
  limit : Option (Text × Nat) := none

namespace Shelf

/-- The shelf with a document in the place of one of the same name. -/
def put (entries : List (Text × α)) (name : Text) (content : α) : List (Text × α) :=
  entries.filter (·.1 != name) ++ [(name, content)]

def takeRecords (rules : ShelfRules) (s : Shelf) (name : Text) (records : List Text) :
    Except Refusal Nat × Shelf :=
  let kept := records.filter (!·.isEmpty)
  let full := rules.limit.any fun (limited, most) => limited == name && most < kept.length
  if full then (.error "disk full", s)
  else (.ok kept.length, { s with records := put s.records name kept })

def takeText (rules : ShelfRules) (s : Shelf) (name content : Text) : Except Refusal Unit × Shelf :=
  if rules.rejected.contains name then (.error "read-only", s)
  else (.ok (), { s with documents := put s.documents name content })

def store (rules : ShelfRules) : Store (StateM Shelf) where
  writeRecords name records := fun s => takeRecords rules s name records
  writeText name content := fun s => takeText rules s name content

end Shelf

end TrajectoryFormat.Load
