import TrajectoryFormat.Load.Disk
import TrajectoryFormat.Text.Order

/-!
# Directories as trees

A directory is its entries by name, each a file or a directory. The operations on files act on the
tree below one directory, and are refused as a system of files refuses them.
-/

namespace TrajectoryFormat.Load

/-- What a file holds: text, or bytes that are no text. -/
inductive Content where
  | text (s : Text)
  | bytes (raw : List UInt8)
deriving DecidableEq

/-- Bytes as text, where they are text in UTF-8. -/
def Content.ofBytes (raw : List UInt8) : Content :=
  match String.fromUTF8? ⟨raw.toArray⟩ with
  | some s => .text s.toList
  | none => .bytes raw

/-- A file or a directory. -/
inductive Node where
  | file (content : Content)
  | directory (entries : List (Text × Node))

/-- Why an operation on files is refused. -/
inductive FileFault where
  | notFound
  | exists
  | notADirectory
  | isADirectory
  | notText
deriving DecidableEq, Repr

def FileFault.message : FileFault → Text
  | notFound => "No such file or directory (os error 2)"
  | .exists => "File exists (os error 17)"
  | notADirectory => "Not a directory (os error 20)"
  | isADirectory => "Is a directory (os error 21)"
  | notText => notTextRefusal

namespace Node

def childNamed? (entries : List (Text × Node)) (name : Text) : Option Node :=
  (entries.find? (·.1 == name)).map (·.2)

/-- The entries with one in the place of that of the same name, or in a place of its own. -/
def setEntry (entries : List (Text × Node)) (name : Text) (node : Node) : List (Text × Node) :=
  match entries with
  | [] => [(name, node)]
  | (other, old) :: rest =>
    if other == name then (name, node) :: rest else (other, old) :: setEntry rest name node

def dropEntry (entries : List (Text × Node)) (name : Text) : List (Text × Node) :=
  entries.filter (·.1 != name)

def find (node : Node) : List Text → Except FileFault Node
  | [] => .ok node
  | name :: rest =>
    match node with
    | file _ => .error .notADirectory
    | directory entries =>
      match childNamed? entries name with
      | some child => find child rest
      | none => .error .notFound

/-- The tree with the entries changed of the directory that holds the last name of a path. -/
def change (node : Node)
    (edit : List (Text × Node) → Text → Except FileFault (List (Text × Node))) :
    List Text → Except FileFault Node
  | [] => .error .isADirectory
  | [name] =>
    match node with
    | file _ => .error .notADirectory
    | directory entries => directory <$> edit entries name
  | name :: rest =>
    match node with
    | file _ => .error .notADirectory
    | directory entries =>
      match childNamed? entries name with
      | some child => (directory ∘ setEntry entries name) <$> change child edit rest
      | none => .error .notFound

/-- Puts a file in the place of a file of the same name, or of nothing. -/
def putFile (content : Content) (entries : List (Text × Node)) (name : Text) :
    Except FileFault (List (Text × Node)) :=
  match childNamed? entries name with
  | some (directory _) => .error .isADirectory
  | _ => .ok (setEntry entries name (file content))

def appendTo (more : Text) (entries : List (Text × Node)) (name : Text) :
    Except FileFault (List (Text × Node)) :=
  match childNamed? entries name with
  | some (file (.text s)) => .ok (setEntry entries name (file (.text (s ++ more))))
  | some (file (.bytes raw)) =>
    .ok (setEntry entries name (file (.bytes (raw ++ more.string.toUTF8.toList))))
  | some (directory _) => .error .isADirectory
  | none => .error .notFound

def removeFrom (entries : List (Text × Node)) (name : Text) :
    Except FileFault (List (Text × Node)) :=
  match childNamed? entries name with
  | some (file _) => .ok (dropEntry entries name)
  | some (directory _) => .error .isADirectory
  | none => .error .notFound

def makeDirectories (node : Node) : List Text → Except FileFault Node
  | [] =>
    match node with
    | file _ => .error .exists
    | directory _ => .ok node
  | name :: rest =>
    match node with
    | file _ => .error .notADirectory
    | directory entries =>
      let child := (childNamed? entries name).getD (directory [])
      (directory ∘ setEntry entries name) <$> makeDirectories child rest

mutual

/-- The files at and below a node whose path is given, directories in the order of their names. -/
def files (path : Text) : Node → List (Text × Content)
  | file content => [(path, content)]
  | directory entries =>
    ((filesOf path entries).mergeSort fun a b => a.1.isUpTo b.1).flatMap (·.2)

/-- The files at and below each entry of a directory, by the name of the entry. -/
def filesOf (path : Text) : List (Text × Node) → List (Text × List (Text × Content))
  | [] => []
  | (name, node) :: rest => (name, files (Path.child path name) node) :: filesOf path rest

end

def listFiles (node : Node) (root : Text) : Except FileFault (List Text) :=
  if root.isEmpty then .error .notFound
  else (node.find (Path.names root)).map fun found => (files root found).map (·.1)

def readText (node : Node) (path : Text) : Except FileFault Text := do
  match ← node.find (Path.names path) with
  | file (.text s) => pure s
  | file (.bytes _) => throw .notText
  | directory _ => throw .isADirectory

def rename (node : Node) (source target : Text) : Except FileFault Node := do
  match ← node.find (Path.names source) with
  | file content =>
    let moved ← node.change (putFile content) (Path.names target)
    moved.change removeFrom (Path.names source)
  | directory _ => throw .isADirectory

def answer (result : Except FileFault α) : Except Refusal α := result.mapError FileFault.message

def reading (look : Node → Except FileFault α) : StateM Node (Except Refusal α) :=
  fun node => (answer (look node), node)

/-- Changes the tree, unless the change is refused. -/
def writing (edit : Node → Except FileFault Node) : StateM Node (Except Refusal Unit) :=
  fun node =>
    match edit node with
    | .ok changed => (.ok (), changed)
    | .error fault => (.error fault.message, node)

def disk : Disk (StateM Node) where
  listFiles root := fun node =>
    ((node.listFiles root).mapError fun fault => listingRefusal root fault.message, node)
  readText path := reading fun node => node.readText path
  makeDirectories path := writing fun node => node.makeDirectories (Path.names path)
  createFile path := writing fun node => node.change (putFile (.text [])) (Path.names path)
  appendText path text := writing fun node => node.change (appendTo text) (Path.names path)
  finishFile _ := pure (.ok ())
  rename source target := writing fun node => node.rename source target
  removeFile path := writing fun node => node.change removeFrom (Path.names path)
  writeText path text := writing fun node => node.change (putFile (.text text)) (Path.names path)

end Node

end TrajectoryFormat.Load
