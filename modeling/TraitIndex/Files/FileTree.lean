import TraitIndex.Assoc
import TraitIndex.Files.Path
import TraitIndex.Text.Blank

/-!
The files of a machine, as a program in some directory sees them.

A tree lists its files, and directories that may be empty, by the names on the
way to them from the root.  Whatever has something below it is a directory.  A
path without a root starts at the working directory.
-/

namespace TraitIndex

inductive FileNode where
  | file (content : List UInt8)
  | directory
  deriving DecidableEq, Repr, Inhabited

structure FileTree where
  nodes : Assoc (List String) FileNode
  working : List String := []
  deriving DecidableEq, Repr, Inhabited

namespace FileTree

def empty : FileTree := { nodes := [] }

def put (tree : FileTree) (place : List String) (node : FileNode) : FileTree :=
  { tree with nodes := tree.nodes.insert place node }

def hasBelow (tree : FileTree) (place : List String) : Bool :=
  tree.nodes.any fun field => place.isPrefixOf field.1 && place != field.1

def nodeAt? (tree : FileTree) (place : List String) : Option FileNode :=
  if place.isEmpty || tree.hasBelow place then some .directory
  else tree.nodes.find? place

/-- Why a path leads nowhere. -/
inductive Obstacle where
  | missing
  | notDirectory
  | nameTooLong
  | nullByte
  deriving DecidableEq, Repr

/-- The most bytes a name may have. -/
def nameLimit : Nat := 255

/-- The most bytes a path may have. -/
def pathLimit : Nat := 4095

/-- The place that further names lead to.  Double dots lead upwards, from the
root to itself. -/
def walk (tree : FileTree) :
    List String → List String → Except Obstacle (List String)
  | place, [] => .ok place
  | place, name :: rest =>
      match tree.nodeAt? place with
      | some .directory =>
          if name = ".." then walk tree place.dropLast rest
          else if nameLimit < name.utf8ByteSize then .error .nameTooLong
          else walk tree (place ++ [name]) rest
      | some (.file _) => .error .notDirectory
      | none => .error .missing

def start (tree : FileTree) (path : Path) : List String :=
  if path.root = .relative then tree.working else []

def place (tree : FileTree) (path : Path) : Except Obstacle (List String) :=
  if path.toText.contains '\x00' then .error .nullByte
  else if pathLimit < path.toText.utf8ByteSize then .error .nameTooLong
  else tree.walk (tree.start path) path.components

def node (tree : FileTree) (path : Path) : Except Obstacle FileNode := do
  let place ← tree.place path
  match tree.nodeAt? place with
  | some node => return node
  | none => throw .missing

def Obstacle.fault (path : Path) : Obstacle → FileFault
  | missing => .missing path.toText
  | notDirectory => .notDirectory path.toText
  | nameTooLong => .nameTooLong path.toText
  | nullByte => .nullByte

/-- What stands at a path, if anything does.  Only about names that are too long
it cannot be said. -/
def node? (tree : FileTree) (path : Path) :
    Except FileFault (Option FileNode) :=
  match tree.node path with
  | .ok node => .ok (some node)
  | .error .nameTooLong => .error (.nameTooLong path.toText)
  | .error _ => .ok none

def isDirectory (tree : FileTree) (path : Path) : Except FileFault Bool :=
  (tree.node? path).map (· = some .directory)

def isFile (tree : FileTree) (path : Path) : Except FileFault Bool :=
  (tree.node? path).map fun node => node.any (· != .directory)

def contains (tree : FileTree) (path : Path) : Except FileFault Bool :=
  (tree.node? path).map Option.isSome

def readBytes (tree : FileTree) (path : Path) : Except FileFault (List UInt8) :=
  match tree.node path with
  | .ok (.file content) => .ok content
  | .ok .directory => .error (.isDirectory path.toText)
  | .error obstacle => .error (obstacle.fault path)

def readText (tree : FileTree) (path : Path) :
    Except FileFault (List Char) := do
  let bytes ← tree.readBytes path
  match Text.decodeUtf8 bytes with
  | .ok text => return Text.unifyLineEnds text
  | .error fault => throw (.notText fault)

def namesBelow (tree : FileTree) (place : List String) : List (List String) :=
  (tree.nodes.keys.filter fun node => place.isPrefixOf node &&
    place != node).map
    (·.drop place.length)

def directoriesIn (tree : FileTree) (place : List String) : List String :=
  ((tree.namesBelow place).filterMap List.head?).eraseDups.filter fun name =>
    tree.nodeAt? (place ++ [name]) = some .directory

def write (tree : FileTree) (path : Path) (content : List UInt8) :
    Except FileFault FileTree :=
  match tree.place path with
  | .error obstacle => .error (obstacle.fault path)
  | .ok place =>
      match tree.nodeAt? place with
      | some .directory => .error (.isDirectory path.toText)
      | _ =>
          match tree.nodeAt? place.dropLast with
          | some .directory => .ok (tree.put place (.file content))
          | some (.file _) => .error (.notDirectory path.toText)
          | none => .error (.missing path.toText)

end FileTree

end TraitIndex
