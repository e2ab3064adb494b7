import RoutingDump.FilePath

/-!
# File trees

The files a run can see: numbered nodes, which are directories and files, with the time of their
last change. Node zero is the root. A directory knows its names and the directory above it, so a
path is followed node by node. A node keeps its number for good: an open file goes on reading the
node it opened when the name is removed, and sees what others write to it.
-/

namespace RoutingDump

/-- A file with its bytes, or a directory with the node above it and the names in it. -/
inductive Node where
  | file (bytes : Array UInt8) (modified : Int)
  | directory (parent : Nat) (names : List (String × Nat)) (modified : Int)
  deriving DecidableEq, Repr

namespace Node

def isDirectory : Node → Bool
  | .directory _ _ _ => true
  | .file _ _ => false

def modified : Node → Int
  | .file _ t => t
  | .directory _ _ t => t

def withModified (t : Int) : Node → Node
  | .file bytes _ => .file bytes t
  | .directory parent names _ => .directory parent names t

end Node

/-- Nodes by number, the directory where relative paths start, and the time at which changes are
made. -/
structure FileTree where
  nodes : Array Node
  workingDirectory : Nat := 0
  clock : Int := 0

namespace FileTree

/-- The bare root. Nothing is above it, so it stands above itself. -/
def empty (clock : Int) : FileTree where
  nodes := #[.directory 0 [] clock]
  clock := clock

def node? (t : FileTree) (place : Nat) : Option Node := t.nodes[place]?

def isDirectoryAt (t : FileTree) (place : Nat) : Bool :=
  ((t.node? place).map Node.isDirectory).getD false

/-- The names in a directory, the oldest first. -/
def names (t : FileTree) (place : Nat) : List (String × Nat) :=
  match t.node? place with
  | some (.directory _ names _) => names
  | _ => []

def child? (t : FileTree) (place : Nat) (name : String) : Option Nat :=
  (t.names place).lookup name

/-- The names in a directory, with what they lead to. -/
def children (t : FileTree) (place : Nat) : List (String × Node) :=
  (t.names place).filterMap fun entry => (t.node? entry.2).map (entry.1, ·)

def setNode (t : FileTree) (place : Nat) (node : Node) : FileTree :=
  { t with nodes := t.nodes.setIfInBounds place node }

def setNames (t : FileTree) (place : Nat) (names : List (String × Nat)) : FileTree :=
  match t.node? place with
  | some (.directory parent _ modified) => t.setNode place (.directory parent names modified)
  | _ => t

/-- Puts a new node under a name in a directory. -/
def add (t : FileTree) (place : Nat) (name : String) (node : Node) : FileTree :=
  { t with nodes := t.nodes.push node }.setNames place (t.names place ++ [(name, t.nodes.size)])

/-- Takes a name out of a directory. The node stays for those who have it open. -/
def unlink (t : FileTree) (place : Nat) (name : String) : FileTree :=
  t.setNames place ((t.names place).filter (·.1 != name))

/-- One step from a place. Every step asks for a directory to start from. Above the root is the
root. -/
def step (t : FileTree) (place : Nat) (s : PathStep) : Except IoError Nat :=
  match t.node? place with
  | some (.directory parent names _) =>
    match s with
    | .here => .ok place
    | .up => .ok parent
    | .name n =>
      if FilePath.maxNameBytes < n.utf8ByteSize then .error .nameTooLong
      else
        match names.lookup n with
        | some found => .ok found
        | none => .error .noEntry
  | _ => .error .notDirectory

def walk (t : FileTree) (place : Nat) (steps : List PathStep) : Except IoError Nat :=
  steps.foldlM t.step place

/-- Where a path starts. -/
def start (t : FileTree) (path : FilePath) : Nat :=
  if path.absolute then 0 else t.workingDirectory

def resolve (t : FileTree) (path : FilePath) : Except IoError Nat :=
  match t.walk (t.start path) path.steps with
  | .error e => .error e
  | .ok place =>
    if path.slashed && !t.isDirectoryAt place then .error .notDirectory else .ok place

def resolveString (t : FileTree) (path : String) : Except IoError Nat :=
  match FilePath.ofString path with
  | .error e => .error e
  | .ok p => t.resolve p

def exists? (t : FileTree) (path : String) : Bool := (t.resolveString path).toOption.isSome

def isFile (t : FileTree) (path : String) : Bool :=
  match t.resolveString path with
  | .ok place => !t.isDirectoryAt place
  | .error _ => false

/-- The place if a file is there. -/
def fileAt? (t : FileTree) (place : Nat) : Option Nat :=
  match t.node? place with
  | some (.file _ _) => some place
  | _ => none

/-- The bytes of a file as they are stored. A directory has none. -/
def stored (t : FileTree) (place : Nat) : Array UInt8 :=
  match t.node? place with
  | some (.file bytes _) => bytes
  | _ => #[]

/-- The bytes of a file. -/
def content (t : FileTree) (place : Nat) : List UInt8 := (t.stored place).toList

/-- At most `size` bytes of a file, those behind the first `offset`. Bytes in front of the offset
are not passed through. -/
def block (t : FileTree) (place offset size : Nat) : List UInt8 :=
  ((t.stored place).extract offset (offset + size)).toList

theorem block_eq (t : FileTree) (place offset size : Nat) :
    t.block place offset size = ((t.content place).drop offset).take size := by
  simp [block, content, List.extract_eq_take_drop]

/-- All bytes of the file at a path. -/
def read (t : FileTree) (path : String) : Except IoError (List UInt8) :=
  match t.resolveString path with
  | .error e => .error e
  | .ok place => if t.isDirectoryAt place then .error .isDirectory else .ok (t.content place)

/-- The directory and the name that a path gives to a new entry. A path that ends in no name leads
to something that is there or to nothing, and gives none. -/
def destination (t : FileTree) (path : FilePath) : Except IoError (Option (Nat × String)) :=
  match path.steps.getLast? with
  | some (.name n) =>
    match t.walk (t.start path) path.steps.dropLast with
    | .error e => .error e
    | .ok place =>
      if t.isDirectoryAt place then
        if FilePath.maxNameBytes < n.utf8ByteSize then .error .nameTooLong
        else .ok (some (place, n))
      else .error .notDirectory
  | _ =>
    match t.resolve path with
    | .error e => .error e
    | .ok _ => .ok none

def makeDirectory (t : FileTree) (path : FilePath) : Except IoError FileTree :=
  match t.destination path with
  | .error e => .error e
  | .ok none => .error .exists
  | .ok (some (place, n)) =>
    if (t.child? place n).isSome then .error .exists
    else .ok (t.add place n (.directory place [] t.clock))

/-- Makes a directory unless it is there. -/
def ensureDirectory (t : FileTree) (path : FilePath) : FileTree × Option IoError :=
  match t.makeDirectory path with
  | .ok t => (t, none)
  | .error e =>
    match t.resolve path with
    | .ok place => (t, if t.isDirectoryAt place then none else some e)
    | .error _ => (t, some e)

/-- Makes a directory and those above it, as far as they are missing. `depth` is the number of
levels that may be missing. What was made before a fault stays. -/
def makeLevels (t : FileTree) (path : FilePath) : (depth : Nat) → FileTree × Option IoError
  | 0 => (t, none)
  | depth + 1 =>
    if path.steps.isEmpty then (t, none)
    else
      match t.makeDirectory path with
      | .error .noEntry =>
        match t.makeLevels path.parent depth with
        | (t, none) => t.ensureDirectory path
        | (t, some e) => (t, some e)
      | _ => t.ensureDirectory path

def makeDirectories (t : FileTree) (path : String) : FileTree × Option IoError :=
  match FilePath.ofString path with
  | .error e => (t, some e)
  | .ok p => t.makeLevels p (p.steps.length + 1)

/-- Changes the bytes of a file, which is made if it is missing. -/
def change (t : FileTree) (path : String) (f : Array UInt8 → Array UInt8) :
    Except IoError FileTree :=
  match FilePath.ofString path with
  | .error e => .error e
  | .ok p =>
    match t.destination p with
    | .error e => .error e
    | .ok none => .error .isDirectory
    | .ok (some (place, n)) =>
      match t.child? place n with
      | none => .ok (t.add place n (.file (f #[]) t.clock))
      | some found =>
        match t.node? found with
        | some (.file bytes _) => .ok (t.setNode found (.file (f bytes) t.clock))
        | _ => .error .isDirectory

def write (t : FileTree) (path : String) (bytes : List UInt8) : Except IoError FileTree :=
  t.change path fun _ => bytes.toArray

def append (t : FileTree) (path : String) (bytes : List UInt8) : Except IoError FileTree :=
  t.change path (· ++ bytes.toArray)

/-- Removes the name of a file. -/
def remove (t : FileTree) (path : String) : Except IoError FileTree :=
  match FilePath.ofString path with
  | .error e => .error e
  | .ok p =>
    match t.destination p with
    | .error e => .error e
    | .ok none => .error .isDirectory
    | .ok (some (place, n)) =>
      match t.child? place n with
      | none => .error .noEntry
      | some found =>
        if t.isDirectoryAt found then .error .isDirectory
        else if p.slashed then .error .notDirectory
        else .ok (t.unlink place n)

/-- Sets the time of the last change. -/
def touch (t : FileTree) (path : String) (modified : Int) : FileTree :=
  match t.resolveString path with
  | .error _ => t
  | .ok place =>
    match t.node? place with
    | none => t
    | some node => t.setNode place (node.withModified modified)

/-- The names in the directory at a path, with what they lead to. -/
def list (t : FileTree) (path : String) : Except IoError (List (String × Node)) :=
  match t.resolveString path with
  | .error e => .error e
  | .ok place => if t.isDirectoryAt place then .ok (t.children place) else .error .notDirectory

/-- The names on the way from the root to a directory and then `below`, where at most `depth`
levels are climbed. -/
def climb (t : FileTree) : (depth : Nat) → Nat → List String → List String
  | 0, _, below => below
  | depth + 1, place, below =>
    match t.node? place with
    | some (.directory parent _ _) =>
      match (t.names parent).find? (·.2 == place) with
      | some (name, _) => climb t depth parent (name :: below)
      | none => below
    | _ => below

/-- The names on the way from the root to a directory. -/
def trail (t : FileTree) (place : Nat) : List String := t.climb t.nodes.size place []

/-- A tree with nothing but an empty working directory below the root, and what is on the way to
it. -/
def withWorkingDirectory (way : List String) (clock : Int) : FileTree :=
  way.foldl
    (fun t name =>
      { t.add t.workingDirectory name (.directory t.workingDirectory [] clock) with
        workingDirectory := t.nodes.size })
    (empty clock)

end FileTree
end RoutingDump
