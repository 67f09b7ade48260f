import TraitIndex.Files.FileTree
import TraitIndex.Implementor.TraitPath

/-!
Finding the files of a documentation bundle.

Fragments stand anywhere below the directory `implementors`, as scripts or as
structured data; each crate has a directory of its own with a sidebar script in
it.  Files are taken in the order of their paths.
-/

namespace TraitIndex.Bundle

def structuredSuffixes : List String := [".json", ".yaml", ".yml"]

def scriptSuffix : String := ".js"

def sidebarName : String := "sidebar-items.js"

def isStructured (path : Path) : Bool :=
  structuredSuffixes.contains path.suffix

def isFragmentFile (path : Path) : Bool :=
  path.suffix == scriptSuffix || isStructured path

def inOrder (paths : List Path) : List Path :=
  paths.mergeSort Path.le

def filesAmong (tree : FileTree) : List Path → Except FileFault (List Path)
  | [] => .ok []
  | path :: rest => do
      let isFile ← tree.isFile path
      let files ← filesAmong tree rest
      return if isFile then path :: files else files

/-- The files at the ends of ways that lead on from a directory.  Where the
directory stands tells which ways there are. -/
def filesAlong (tree : FileTree) (directory : Path)
    (ways : List String → List (List String)) :
    Except FileFault (List Path) := do
  if ← tree.isDirectory directory then
    match tree.place directory with
    | .ok place => filesAmong tree ((ways place).map directory.along)
    | .error _ => return []
  else return []

def fragmentFiles (tree : FileTree) (root : Path) :
    Except FileFault (List Path) := do
  let files ← filesAlong tree (root.child implementorsDirectory) tree.namesBelow
  return inOrder (files.filter isFragmentFile)

def sidebarWays (tree : FileTree) (place : List String) : List (List String) :=
  (tree.directoriesIn place).map ([·, sidebarName])

def sidebarFiles (tree : FileTree) (root : Path) :
    Except FileFault (List Path) := do
  let files ← filesAlong tree root (sidebarWays tree)
  return inOrder files

end TraitIndex.Bundle
