import VersionGate.Files.Sight

/-!
# File trees

A file tree holds files and directories, and gives the sight of every path. Besides them
there are only the places that every system has: the directories that lead to the
working directory, those below the root, and the device that is always empty.
-/

namespace VersionGate.Files

/-- A file, a directory, or the device that is always empty. -/
inductive Node where
  | file (content : ByteArray)
  | directory
  | emptyDevice

/-- The sight of what is at the end of a path. -/
def Node.sight : Node → Sight
  | .file content => .file content
  | .directory => .directory
  | .emptyDevice => .seen false 0 (.ok .empty)

/-- A place below the working directory or below the root, with the names that lead
there in reverse order. The names that lead up from the working directory are double
dots. -/
inductive Place where
  | inside (names : List String)
  | below (names : List String)
deriving DecidableEq, Repr

/-- The place where the names of a path begin. -/
def Anchor.place : Anchor → Place
  | .relative => .inside []
  | .root | .doubleRoot => .below []

/-- The place one name further on. Above the root there is the root itself. -/
def Place.step : Place → String → Place
  | .inside [], ".." => .inside [".."]
  | .inside (name :: rest), ".." =>
    if name = ".." then .inside (".." :: name :: rest) else .inside rest
  | .inside names, name => .inside (name :: names)
  | .below names, ".." => .below names.tail
  | .below names, name => .below (name :: names)

/-- The directories that every system has below its root. -/
def systemDirectories : List String :=
  ["bin", "boot", "dev", "etc", "home", "lib", "media", "mnt", "opt", "proc", "root", "run",
    "sbin", "srv", "sys", "tmp", "usr", "var"]

/-- The directories one level further down that every system has. -/
def innerDirectories : List (List String) :=
  [["usr", "bin"], ["usr", "lib"], ["usr", "local"], ["usr", "sbin"], ["usr", "share"],
    ["var", "cache"], ["var", "lib"], ["var", "log"], ["var", "tmp"]]

/-- The node at a place, as far as it is on every system. -/
def Place.systemNode? : Place → Option Node
  | .inside names => if names.all (· == "..") then some .directory else none
  | .below names =>
    match names.reverse with
    | [] => some .directory
    | [name] => if systemDirectories.contains name then some .directory else none
    | ["dev", "null"] => some .emptyDevice
    | names => if innerDirectories.contains names then some .directory else none

/-- The nodes that a tree adds to those of every system; of several at one place the
first counts. -/
structure Tree where
  nodes : List (Place × Node) := []

/-- The longest name, in bytes, that a file system holds. -/
def nameLimit : Nat := 255

/-- The length, in bytes, from which on a path is refused. -/
def pathLimit : Nat := 4096

namespace Tree

/-- The node at a place. -/
def node? (tree : Tree) (place : Place) : Option Node :=
  (tree.nodes.lookup place).or place.systemNode?

/-- The tree with a node put at a place. -/
def put (tree : Tree) (place : Place) (node : Node) : Tree :=
  ⟨(place, node) :: tree.nodes⟩

/-- The tree with directories at all places that the names lead through, and the place
that they lead to. -/
def makeWay (tree : Tree) (place : Place) : List String → Tree × Place
  | [] => (tree, place)
  | name :: rest => (tree.put (place.step name) .directory).makeWay (place.step name) rest

/-- The tree with a directory, and the directories that lead to it. -/
def addDirectory (tree : Tree) (path : Path) : Tree :=
  (tree.makeWay path.anchor.place path.names).1

/-- The tree with a file, and the directories that lead to it. -/
def addFile (tree : Tree) (path : Path) (content : ByteArray) : Tree :=
  let (tree, place) := tree.makeWay path.anchor.place path.names.dropLast
  path.names.getLast?.elim tree fun name => tree.put (place.step name) (.file content)

/-- The sight of a path, from the place where its names begin. Every name but the
last has to lead to a directory. -/
def follow (tree : Tree) (place : Place) : List String → Sight
  | [] => .directory
  | name :: rest =>
    if nameLimit < name.utf8ByteSize then .hidden .nameTooLong
    else
      match tree.node? (place.step name) with
      | none => .missing
      | some .directory => tree.follow (place.step name) rest
      | some node => if rest.isEmpty then node.sight else .hidden .blocked

/-- The sight of a path. -/
def look (tree : Tree) (path : Path) : Sight :=
  if pathLimit ≤ path.text.utf8ByteSize then .hidden .nameTooLong
  else tree.follow path.anchor.place path.names

end Tree

end VersionGate.Files
