import TraitIndex.Registry.Merge
import TraitIndex.Text.Search

/-!
Questions to the registry.
-/

namespace TraitIndex

namespace Registry

def traits (registry : Registry) : List String :=
  registry.byTrait.keys.mergeSort fun a b => decide (a ≤ b)

def knows (registry : Registry) (traitName : String) : Bool :=
  (registry.byTrait.find? traitName).isSome

/-- The traits a full or a short name can mean.  A full name means itself. -/
def resolve (registry : Registry) (name : String) : List String :=
  if registry.knows name then [name]
  else registry.traits.filter fun traitName =>
    Text.lastSegment traitName == name

/-- The crates that own records of a trait, in the order of their first
record. -/
def cratesFor (registry : Registry) (traitName : String) : List String :=
  ((registry.records traitName).map fun record =>
    record.owningCrate.toText).eraseDups

def isOwnedBy (record : Record) (crate : String) : Bool :=
  match record.owningCrate with
  | .text owner => owner == crate
  | _ => false

/-- The records a crate owns, of all traits in the order in which the traits
first came. -/
def ownedBy (registry : Registry) (crate : String) : List Record :=
  registry.byTrait.flatMap fun field => field.2.filter (isOwnedBy · crate)

def readiness (registry : Registry) (expected : Option Int) : Readiness :=
  ⟨registry.stats.distinctSources, expected⟩

end Registry

end TraitIndex
