import TraitIndex.Bundle.Read
import TraitIndex.Script.Write

/-!
Turning a structured file into a script.
-/

namespace TraitIndex.Command

inductive Unreadable where
  | file (fault : FileFault)
  | text (fault : SyntaxFault)
  | format (fault : FormatFault)
  deriving DecidableEq, Repr

def Unreadable.wording : Unreadable → String
  | file fault => fault.wording
  | text fault => fault.wording
  | format fault => fault.wording

/-- Why a file is not turned into a script: it cannot be read, or something is
wrong with it that was not foreseen. -/
inductive Unconverted where
  | unreadable (reason : Unreadable)
  | unforeseen (fault : Fault)
  deriving DecidableEq, Repr

/-- The fault of a file that cannot be read.  Bytes that are no text are not
foreseen, and neither are paths that can name no file. -/
def unreadFile : FileFault → Unconverted
  | .notText fault => .unforeseen (.file (.notText fault))
  | .nullByte => .unforeseen (.file .nullByte)
  | fault => .unreadable (.file fault)

def readJson (tree : FileTree) (path : Path) : Except Unconverted Value := do
  let text ← (tree.readText path).mapError unreadFile
  match Json.decodeChars text with
  | .ok document => return document
  | .error (.malformed cause) => throw (.unreadable (.text (.json cause)))
  | .error (.value fault) => throw (.unforeseen (.value fault))

def readYaml (tree : FileTree) (path : Path) : Except Unconverted Value := do
  let bytes ← (tree.readBytes path).mapError unreadFile
  match Yaml.decodeDescriptors (Text.piecesOfBytes bytes) with
  | .ok document => return document
  | .error .malformed => throw (.unreadable (.text .yaml))
  | .error (.value fault) => throw (.unforeseen (.value fault))
  | .error (.bytes fault) => throw (unreadFile (.notText fault))
  | .error .endless => throw (.unforeseen .recursion)

/-- The value in a file, which is one of YAML unless its suffix says
otherwise. -/
def readDocument (tree : FileTree) (path : Path) : Except Unconverted Value :=
  if path.suffix = ".json" then readJson tree path else readYaml tree path

def readStructured (tree : FileTree) (path : Path) (traitName : String) :
    Except Unconverted Fragment := do
  let document ← readDocument tree path
  match Structured.ofValue document path.name traitName with
  | .ok fragment => return fragment
  | .error (.format fault) => throw (.unreadable (.format fault))
  | .error fault => throw (.unforeseen fault)

def convertedFile [Host] (tree : FileTree) (path : Path) (traitName : String) :
    Except Unconverted String := do
  if Host.isExhausted tree path (.conversion (Bundle.formatOf path)) then
    throw (.unforeseen .recursion)
  let fragment ← readStructured tree path traitName
  match Script.write fragment with
  | .ok script => return script ++ "\n"
  | .error fault => throw (.unforeseen (.value fault))

end TraitIndex.Command
