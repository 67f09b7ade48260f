import TraitIndex.Assoc
import TraitIndex.Value.Fault

/-!
The sidebar of a crate: its symbols, listed by kind.

Each crate has one index of its own.  A catalog holds the indexes of all crates
and answers every question from the index of the crate asked about.
-/

namespace TraitIndex

structure SidebarItem where
  symbolName : String
  description : String
  deriving DecidableEq, Repr, Inhabited

def SidebarItem.ofParts : List String → Except ValueFault SidebarItem
  | [] => .error .itemWithoutName
  | [symbolName] => .ok ⟨symbolName, ""⟩
  | [symbolName, description] => .ok ⟨symbolName, description⟩
  | parts => .error (.itemTooLong parts.length)

structure SidebarIndex where
  crate : String
  items : Assoc String (List SidebarItem)
  deriving DecidableEq, Repr, Inhabited

namespace SidebarIndex

def kinds (index : SidebarIndex) : List String :=
  index.items.keys

def lookup (index : SidebarIndex) (kind : String) : List SidebarItem :=
  (index.items.find? kind).getD []

def itemCount (index : SidebarIndex) : Nat :=
  (index.items.flatMap fun field => field.2).length

end SidebarIndex

structure SidebarCatalog where
  indexes : Assoc String SidebarIndex
  deriving DecidableEq, Repr, Inhabited

namespace SidebarCatalog

def empty : SidebarCatalog := ⟨[]⟩

/-- The catalog with an index in the place of any earlier one for the same
crate. -/
def add (catalog : SidebarCatalog) (index : SidebarIndex) : SidebarCatalog :=
  ⟨catalog.indexes.insert index.crate index⟩

def get? (catalog : SidebarCatalog) (crate : String) : Option SidebarIndex :=
  catalog.indexes.find? crate

def crates (catalog : SidebarCatalog) : List String :=
  catalog.indexes.keys.mergeSort fun a b => decide (a ≤ b)

def lookup (catalog : SidebarCatalog) (crate kind : String) :
    List SidebarItem :=
  match catalog.get? crate with
  | some index => index.lookup kind
  | none => []

def size (catalog : SidebarCatalog) : Nat :=
  catalog.indexes.length

end SidebarCatalog

end TraitIndex
