import TraitIndex.Fault
import TraitIndex.Text.Search

/-!
Paths of files.

A path is a list of components, which may hang from a root.  Empty components
and single dots do not count; double dots stay.  Exactly two leading slashes are
a root of their own.
-/

namespace TraitIndex

inductive PathRoot where
  | relative
  | slash
  | doubleSlash
  deriving DecidableEq, Repr, Inhabited

structure Path where
  root : PathRoot
  components : List String
  deriving DecidableEq, Repr, Inhabited

namespace PathRoot

def toText : PathRoot → String
  | relative => ""
  | slash => "/"
  | doubleSlash => "//"

def ofChars : List Char → PathRoot
  | '/' :: '/' :: '/' :: _ => slash
  | '/' :: '/' :: _ => doubleSlash
  | '/' :: _ => slash
  | _ => relative

end PathRoot

namespace Path

def componentsOf (text : List Char) : List String :=
  ((Text.splitAt '/' text).map String.ofList).filter fun part => part != "" &&
    part != "."

def ofText (text : String) : Path where
  root := PathRoot.ofChars text.toList
  components := componentsOf text.toList

def written (path : Path) : String :=
  path.root.toText ++ "/".intercalate path.components

/-- A path as text; the path of nothing is a dot. -/
def toText (path : Path) : String :=
  if path.root = .relative && path.components.isEmpty then "." else path.written

def parts (path : Path) : List String :=
  match path.root with
  | .relative => path.components
  | root => root.toText :: path.components

def name (path : Path) : String :=
  path.components.getLast?.getD ""

def parent (path : Path) : Path :=
  { path with components := path.components.dropLast }

def along (path : Path) (components : List String) : Path :=
  { path with components := path.components ++ components }

def child (path : Path) (component : String) : Path :=
  path.along [component]

/-- A path continued by another one; a path with a root of its own replaces
it. -/
def join (path other : Path) : Path :=
  if other.root = .relative then path.along other.components else other

/-- A name taken apart at its last dot, if something stands on both sides of
it. -/
def splitName (name : String) : String × String :=
  let backwards := name.toList.reverse
  let extension := backwards.takeWhile (· != '.')
  let before := backwards.drop (extension.length + 1)
  if extension.isEmpty || before.isEmpty then (name, "")
  else (String.ofList before.reverse, String.ofList ('.' :: extension.reverse))

def stem (path : Path) : String :=
  (splitName path.name).1

def suffix (path : Path) : String :=
  (splitName path.name).2

/-- The order of lists of names: the first names that differ decide, by the code
points of their characters, and a list comes before its continuations. -/
def namesLe : List String → List String → Bool
  | [], _ => true
  | _ :: _, [] => false
  | a :: as, b :: bs => decide (a < b) || (a == b && namesLe as bs)

def le (a b : Path) : Bool :=
  namesLe a.parts b.parts

def relativeTo (path directory : Path) : Except Fault Path :=
  if directory.root = path.root &&
    directory.components.isPrefixOf path.components then
    .ok ⟨.relative, path.components.drop directory.components.length⟩
  else .error (.notBelow path.toText directory.written)

end Path

end TraitIndex
