import TraitIndex.Console
import TraitIndex.Files.FileTree

/-!
What the program runs on.

Besides the variables of the environment, two things are not up to the program:
how deep a file may nest before the stack is used up, and what the console makes
of styled text.
-/

namespace TraitIndex

structure Environment where
  docsRoot : Option String
  expected : Option String
  logLevel : Option String
  deriving DecidableEq, Repr, Inhabited

/-- What a file is taken apart for. -/
inductive Purpose where
  | script
  | structured (format : String)
  | sidebar
  | settings (environment : Environment)
  | conversion (format : String)
  deriving DecidableEq, Repr

class Host where
  /-- Whether taking these bytes apart needs more stack than there is. -/
  exhausts : Purpose → List UInt8 → Bool
  /-- What the console says about something that it cannot show: because tags in
  it do not match, say, or because its text cannot be encoded. -/
  complaint? : Console.Display → Option String

namespace Host

/-- A host with a stack for everything and a console that shows everything. -/
instance (priority := low) ample : Host where
  exhausts _ _ := false
  complaint? _ := none

def isExhausted [Host] (tree : FileTree) (path : Path)
    (purpose : Purpose) : Bool :=
  match tree.readBytes path with
  | .ok bytes => exhausts purpose bytes
  | .error _ => false

/-- What is shown of some displays, and the fault that put an end to it. -/
def show? [Host] : List Console.Display → List Console.Display × Option Fault
  | [] => ([], none)
  | display :: rest =>
      match complaint? display with
      | some message => ([], some (.console message))
      | none =>
          let (shown, fault) := show? rest
          (display :: shown, fault)

end Host

end TraitIndex
