import TraitIndex.Assoc
import TraitIndex.Implementor.Record

/-!
Fragments: the records one producer delivers at a time, listed by crate.

A fragment is taken as it comes.  Its entries may be no mapping, an entry may be
no list, and an element of a list may be no record; each of these is a value of
its own, so that reading a fragment can say exactly what it met.
-/

namespace TraitIndex

inductive Element where
  | record (record : Record)
  | other (value : Value)
  deriving Repr, Inhabited

inductive Entry where
  | listed (elements : List Element)
  | other (value : Value)
  deriving Repr, Inhabited

inductive Entries where
  | byCrate (crates : Assoc String Entry)
  | other (value : Value)
  deriving Repr, Inhabited

structure Fragment where
  entries : Entries
  source : Value
  deriving Repr, Inhabited

/-- A payload handed to a channel or a registry, fragment or not. -/
inductive Payload where
  | fragment (fragment : Fragment)
  | other (value : Value)
  deriving Repr, Inhabited

namespace Element

def record? : Element → Option Record
  | record r => some r
  | other _ => none

def validIdentity? (element : Element) : Option Identity :=
  element.record?.bind (·.validIdentity?)

def kindName : Element → String
  | record _ => "ImplementorRecord"
  | other value => value.kindName

end Element

namespace Entry

/-- The entry that a plain value is: a list or tuple holds its items, none of
which is a record. -/
def ofValue : Value → Entry
  | .list items => .listed (items.map .other)
  | .pair first second => .listed [.other first, .other second]
  | value => .other value

def elements : Entry → Except ValueFault (List Element)
  | listed items => .ok items
  | other value => value.elements.map fun items => items.map .other

def size : Entry → Except ValueFault Nat
  | listed items => .ok items.length
  | other value =>
      match value.elements with
      | .ok items => .ok items.length
      | .error _ => .error (.notSized value.kindName)

end Entry

namespace Entries

def ofValue : Value → Entries
  | .mapping fields =>
      .byCrate (Assoc.ofList
        (fields.map fun field => (field.1.toText, Entry.ofValue field.2)))
  | value => .other value

def kindName : Entries → String
  | byCrate _ => "dict"
  | other value => value.kindName

/-- The crates with their entries, asked for through the given member. -/
def crates (member : String) : Entries → Except ValueFault (Assoc String Entry)
  | byCrate fields => .ok fields
  | other value => .error (.noMember value.kindName member)

end Entries

namespace Fragment

def ofRecords (crates : Assoc String (List Record)) (source : String) :
    Fragment where
  entries :=
    .byCrate (crates.map fun field => (field.1, .listed (field.2.map .record)))
  source := .text source

def crateNames (fragment : Fragment) : Except ValueFault (List Value) :=
  match fragment.entries with
  | .byCrate fields => .ok (fields.map fun field => .text field.1)
  | .other value => value.elements

def elements (fragment : Fragment) : Except ValueFault (List Element) := do
  let crates ← fragment.entries.crates "values"
  let lists ← crates.mapM fun field => field.2.elements
  return lists.flatten

def size (fragment : Fragment) : Except ValueFault Nat := do
  let crates ← fragment.entries.crates "values"
  let sizes ← crates.mapM fun field => field.2.size
  return sizes.foldr (· + ·) 0

end Fragment

end TraitIndex
