import TraitIndex.Bundle.Scan
import TraitIndex.Host
import TraitIndex.Script.Read
import TraitIndex.Sidebar.Read
import TraitIndex.Structured.Read

/-!
Reading the files of a documentation bundle.

A fragment is named after its file: by the path below the root of the bundle, or
by the bare name when no root is given.
-/

namespace TraitIndex.Bundle

def fragmentName (path : Path) (root : Option Path) : Except Fault String :=
  match root with
  | some root => do
      let below ← path.relativeTo root
      return below.toText
  | none => .ok path.name

def readText [Host] (tree : FileTree) (path : Path) (purpose : Purpose) :
    Except Fault String :=
  match tree.readText path with
  | .error fault => .error (.file fault)
  | .ok text =>
      if Host.isExhausted tree path purpose then .error .recursion
      else .ok (String.ofList text)

/-- Reads a fragment script; its path tells the trait. -/
def readScript [Host] (tree : FileTree) (path : Path) (root : Option Path) :
    Except Fault Fragment := do
  let name ← fragmentName path root
  let text ← readText tree path .script
  Script.read text (traitOfPath path) name

def formatOf (path : Path) : String :=
  if path.suffix = ".json" then Structured.jsonFormat else "yaml"

def readStructured [Host] (tree : FileTree) (path : Path) (root : Option Path) :
    Except Fault Fragment := do
  if !isStructured path then throw (.format (.unsupportedFile path.suffix))
  let name ← fragmentName path root
  let text ← readText tree path (.structured (formatOf path))
  Structured.read text name (formatOf path)

/-- Reads the sidebar script of the crate whose directory it stands in. -/
def readSidebar [Host] (tree : FileTree) (path : Path) :
    Except Fault SidebarIndex := do
  let text ← readText tree path .sidebar
  Sidebar.read text path.parent.name

def readFragment [Host] (tree : FileTree) (path root : Path) :
    Except Fault Fragment :=
  if isStructured path then readStructured tree path (some root)
  else readScript tree path (some root)

end TraitIndex.Bundle
