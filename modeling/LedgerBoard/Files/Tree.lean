import LedgerBoard.Files.Disk

/-!
# File trees

A tree of files and directories with their access modes. `Tree.find?` and `Tree.put` look at and
change what is at a place; `World` adds the working directory, and `World.disk` is the disk of a
user whom no mode keeps out.
-/

namespace LedgerBoard

/-- A file or a directory. -/
inductive Tree where
  | file (mode : Nat) (octets : List UInt8)
  | directory (mode : Nat) (entries : List (String × Tree))

namespace Tree

def directoryMode : Nat := 0o755

def fileMode : Nat := 0o644

def empty : Tree := directory directoryMode []

def entries : Tree → List (String × Tree)
  | file _ _ => []
  | directory _ entries => entries

def isDirectory : Tree → Bool
  | file _ _ => false
  | directory _ _ => true

def withMode (mode : Nat) : Tree → Tree
  | file _ octets => file mode octets
  | directory _ entries => directory mode entries

def withEntries (entries : List (String × Tree)) : Tree → Tree
  | file mode octets => file mode octets
  | directory mode _ => directory mode entries

def find? : List String → Tree → Option Tree
  | [], tree => some tree
  | name :: place, tree => (tree.entries.lookup name).bind (find? place)

def setEntry (name : String) (node : Tree) : List (String × Tree) → List (String × Tree)
  | [] => [(name, node)]
  | (other, tree) :: rest =>
      if other = name then (name, node) :: rest else (other, tree) :: setEntry name node rest

/-- Puts a tree at a place whose directory is there. -/
def put (node : Tree) : List String → Tree → Tree
  | [], _ => node
  | name :: place, tree =>
      let inner := (tree.entries.lookup name).getD empty
      tree.withEntries (setEntry name (put node place inner) tree.entries)

def remove : List String → Tree → Tree
  | [], tree => tree
  | [name], tree => tree.withEntries (tree.entries.filter fun entry => entry.1 ≠ name)
  | name :: place, tree =>
      match tree.entries.lookup name with
      | some inner => tree.withEntries (setEntry name (remove place inner) tree.entries)
      | none => tree

end Tree

/-- A file tree and the place of the working directory in it. -/
structure World where
  root : Tree
  base : List String

namespace World

/-- The parts of a path as they are walked; a slash at the end asks for a directory. -/
def steps (path : Path) : List String :=
  let names := path.pieces.filter (· ≠ "")
  if path.endsInSlash then names ++ ["."] else names

/-- Walks from a place along the parts of a path. The last part may be missing. -/
def walk (world : World) : List String → List String → Except FileError (List String)
  | place, [] => .ok place
  | place, name :: rest =>
      match world.root.find? place with
      | none => .error .missing
      | some (.file _ _) => .error .refused
      | some (.directory _ _) =>
          if name = "." then walk world place rest
          else if name = ".." then walk world place.dropLast rest
          else walk world (place ++ [name]) rest

/-- The most octets that the name of a file may have. -/
def nameLimit : Nat := 255

def pathLimit : Nat := 4095

/-- Whether a path is one that a disk can hold. -/
def isSound (path : Path) : Bool :=
  !path.text.toList.contains '\x00' && path.text.utf8ByteSize ≤ pathLimit &&
    (steps path).all fun name => name.utf8ByteSize ≤ nameLimit

def locate (world : World) (path : Path) : Except FileError (List String) :=
  if path.text.isEmpty then .error .missing
  else if !isSound path then .error .refused
  else walk world (if path.isAbsolute then [] else world.base) (steps path)

def status (world : World) (path : Path) : Except FileError (List String × Tree) := do
  let place ← world.locate path
  match world.root.find? place with
  | some tree => return (place, tree)
  | none => throw .missing

def put (world : World) (place : List String) (tree : Tree) : World :=
  { world with root := Tree.put tree place world.root }

/-- Whether a path ends in a part that names a directory by its position only. -/
def endsInDots (path : Path) : Bool :=
  match (steps path.withoutSlashes).getLast? with
  | some name => name == "." || name == ".."
  | none => true

/-- Makes a file with given octets, or fills the one that is there. -/
def write (world : World) (path : Path) (octets : List UInt8) : Except FileError World := do
  let place ← world.locate path
  match world.root.find? place with
  | some (.file mode _) => return world.put place (.file mode octets)
  | some (.directory _ _) => throw .refused
  | none => return world.put place (.file Tree.fileMode octets)

/-- Makes an empty file, unless there is one. -/
def touch (world : World) (path : Path) : Except FileError World := do
  let place ← world.locate path
  match world.root.find? place with
  | some (.file _ _) => return world
  | some (.directory _ _) => throw .refused
  | none => return world.put place (.file Tree.fileMode [])

/-- Makes a directory where nothing is. A slash at the end of the path does not count. -/
def makeDirectory (world : World) (path : Path) : Except FileError World := do
  let bare := path.withoutSlashes
  let place ← world.locate (if bare.text.isEmpty then path else bare)
  match world.root.find? place with
  | some _ => throw .refused
  | none => return world.put place .empty

/-- Whether something may take the place of something else. -/
def mayReplace : Tree → Option Tree → Bool
  | _, none => true
  | .file _ _, some (.file _ _) => true
  | .directory _ _, some (.directory _ []) => true
  | _, _ => false

/-- Moves a file or directory, in place of a file or an empty directory that is there. -/
def rename (world : World) (source target : Path) : Except FileError World := do
  let (old, tree) ← world.status source
  let new ← world.locate target
  if endsInDots source || endsInDots target then throw .refused
  if old = new then return world
  if old.isPrefixOf new then throw .refused
  if mayReplace tree (world.root.find? new) then
    return { world with root := Tree.put tree new (Tree.remove old world.root) }
  else throw .refused

def setMode (world : World) (path : Path) (mode : Nat) : Except FileError World := do
  let (place, tree) ← world.status path
  return world.put place (tree.withMode mode)

def read (world : World) (path : Path) : Except FileError (List UInt8) := do
  match ← world.status path with
  | (_, .file _ octets) => return octets
  | (_, .directory _ _) => throw .refused

/-- An action that changes the world if it succeeds. -/
def act (change : World → Except FileError World) : StateM World (Except FileError Unit) :=
  fun world =>
    match change world with
    | .ok world => (.ok (), world)
    | .error cause => (.error cause, world)

def disk : Disk (StateM World) where
  isPresent path := do return (← get).status path matches .ok _
  isDirectory path := do return (← get).status path matches .ok (_, .directory _ _)
  read path := do return (← get).read path
  write path octets := act (·.write path octets)
  touch path := act (·.touch path)
  makeDirectory path := act (·.makeDirectory path)
  rename source target := act (·.rename source target)
  setMode path mode := act (·.setMode path mode)

end World

end LedgerBoard
