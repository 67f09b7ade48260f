import TraitIndex.Command.Run

/-!
The program on the command line.

It sees the files below the working directory, which is made out to be the only
one below the root.  They are read before it runs, and the files it has made or
changed are written when it is done.
-/

namespace TraitIndex.Main

partial def addEntry (place : List String) (tree : FileTree)
    (entry : IO.FS.DirEntry) :
    IO FileTree := do
  let place := place ++ [entry.fileName]
  match (← entry.path.symlinkMetadata).type with
  | .dir =>
      let mut tree := tree.put place .directory
      for inner in ← entry.path.readDir do
        tree ← addEntry place tree inner
      return tree
  | .file =>
      let content ← IO.FS.readBinFile entry.path
      return tree.put place (.file content.toList)
  | _ => return tree

def readFiles : IO FileTree := do
  let directory ← IO.currentDir
  let working := (Path.ofText directory.toString).components
  let mut tree :=
    ({ nodes := [], working := working } : FileTree).put working .directory
  for entry in ← directory.readDir do
    tree ← addEntry working tree entry
  return tree

def writeFiles (before after : FileTree) : IO Unit := do
  for (place, node) in after.nodes do
    match node with
    | .file content =>
        if before.nodes.find? place != some node then
          IO.FS.writeBinFile ("/" ++ "/".intercalate place) ⟨content.toArray⟩
    | .directory => pure ()

def readEnvironment : IO Environment := do
  return {
    docsRoot := ← IO.getEnv "DOCINDEX_DOCS_ROOT"
    expected := ← IO.getEnv "DOCINDEX_EXPECTED_FRAGMENTS"
    logLevel := ← IO.getEnv "DOCINDEX_LOG_LEVEL" }

def report (exit : Exit) : IO Unit := do
  for entry in exit.log do
    IO.eprintln (entry.level.name ++ " " ++ entry.message)
  for display in exit.displays do
    IO.println display.plain
  IO.print exit.output
  if let some fault := exit.fault then
    IO.eprintln fault.wording

end TraitIndex.Main

def main (arguments : List String) : IO UInt32 := do
  let files ← TraitIndex.Main.readFiles
  let exit := TraitIndex.Exit.ofArguments files
    (← TraitIndex.Main.readEnvironment) arguments
  TraitIndex.Main.writeFiles files exit.files
  TraitIndex.Main.report exit
  return UInt32.ofNat exit.status
