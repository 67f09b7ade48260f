import TraitIndex.Registry.Query

/-!
Selections from the registry, as they are shown to people and to other programs.
-/

namespace TraitIndex

structure TraitSummary where
  name : String
  implementorCount : Nat
  crates : List String
  deriving DecidableEq, Repr, Inhabited

namespace Registry

/-- The records of a trait in merge order, all of them or those that one crate
owns. -/
def recordsFor (registry : Registry) (traitName : String) :
    Option String → List Record
  | none => registry.records traitName
  | some crate => (registry.records traitName).filter (isOwnedBy · crate)

def summaries (registry : Registry) : List TraitSummary :=
  registry.traits.map fun name =>
    ⟨name, (registry.records name).length, registry.cratesFor name⟩

end Registry

end TraitIndex
