import TraitIndex.Text.Search
import TraitIndex.Value.Fault

/-!
Implementor records.

A record states one fact: a type of some crate implements a trait, perhaps under
a constraint.  Records come from documents nobody has checked, so every field
may hold any value; a record is valid when the four fields that identify it are
texts and it names a trait and a type.
-/

namespace TraitIndex

structure Record where
  traitName : Value
  implementingType : Value
  owningCrate : Value
  constraintText : Value
  synthetic : Value
  /-- The markup shown for the record, which is no part of what it states. -/
  rendered : Value
  deriving Repr, Inhabited

/-- What makes two records the same fact. -/
structure Identity where
  traitName : String
  owningCrate : String
  implementingType : String
  constraintText : String
  deriving DecidableEq, Repr, Inhabited

def Identity.le (a b : Identity) : Bool :=
  if a.traitName != b.traitName then decide (a.traitName < b.traitName)
  else if a.owningCrate != b.owningCrate then
    decide (a.owningCrate < b.owningCrate)
  else if a.implementingType != b.implementingType then
    decide (a.implementingType < b.implementingType)
  else decide (a.constraintText ≤ b.constraintText)

def Identity.isComplete (identity : Identity) : Bool :=
  identity.traitName != "" && identity.implementingType != ""

namespace Record

/-- The identity of a record whose identifying fields are texts. -/
def identity? (record : Record) : Option Identity :=
  match record.traitName, record.owningCrate, record.implementingType,
    record.constraintText with
  | .text traitName, .text owningCrate, .text implementingType,
    .text constraintText =>
      some ⟨traitName, owningCrate, implementingType, constraintText⟩
  | _, _, _, _ => none

def validIdentity? (record : Record) : Option Identity :=
  record.identity?.filter (·.isComplete)

def isValid (record : Record) : Bool :=
  record.validIdentity?.isSome

/-- Whether two records state the same; their markup does not count. -/
def equals (a b : Record) : Bool :=
  a.traitName.equals b.traitName && a.implementingType.equals b.implementingType
    && a.owningCrate.equals b.owningCrate &&
      a.constraintText.equals b.constraintText
    && a.synthetic.equals b.synthetic

def shortPath (path : Value) : Except ValueFault String :=
  match path with
  | .text value => .ok (Text.lastSegment value)
  | value => .error (.noMember value.kindName "rsplit")

def shortType (record : Record) : Except ValueFault String :=
  shortPath record.implementingType

def blank (crate : String) : Record where
  traitName := .text ""
  implementingType := .text ""
  owningCrate := .text crate
  constraintText := .text ""
  synthetic := .bool false
  rendered := .text ""

end Record

end TraitIndex
