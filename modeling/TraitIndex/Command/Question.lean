import TraitIndex.Bundle.Load
import TraitIndex.Registry.Selection

/-!
Questions to a loaded bundle and their answers.
-/

namespace TraitIndex

inductive Question where
  | implementors (name : String) (crate : Option String)
  | traits
  | sidebar (crate : String) (kind : Option String)
  /-- The counters of the registry, and whether as many fragments came as
  expected. -/
  | stats (expected : Option Int)
  deriving DecidableEq, Repr, Inhabited

inductive Answer where
  | ambiguous (name : String) (meanings : List String)
  | implementors (traitName : String) (records : List Record)
  | traits (summaries : List TraitSummary)
  | noSidebar (crate : String)
  | sidebar (sections : List (String × List SidebarItem))
  | stats (counters : RegistryStats) (readiness : Readiness)
    (sidebarCount : Nat)
      (failed : Assoc String String)
  deriving Repr, Inhabited

namespace Question

/-- A text that may be given; the empty one counts as not given. -/
def given (text : Option String) : Option String :=
  text.filter (· != "")

def implementorsOf (registry : Registry) (name : String)
    (crate : Option String) : Answer :=
  match registry.resolve name with
  | [] => .implementors name (registry.recordsFor name (given crate))
  | [traitName] =>
      .implementors traitName (registry.recordsFor traitName (given crate))
  | meanings => .ambiguous name meanings

def sidebarOf (catalog : SidebarCatalog) (crate : String)
    (kind : Option String) : Answer :=
  match catalog.get? crate with
  | none => .noSidebar crate
  | some index =>
      let kinds := match given kind with
        | some kind => [kind]
        | none => index.kinds
      .sidebar (kinds.map fun kind => (kind, catalog.lookup crate kind))

end Question

/-- The readiness of a bundle for a number of fragments, or else for the one it
was loaded with. -/
def DocsIndex.readiness (index : DocsIndex) (expected : Option Int) :
    Readiness :=
  index.registry.readiness (expected.or index.expected)

def DocsIndex.answer (index : DocsIndex) : Question → Answer
  | .implementors name crate =>
      Question.implementorsOf index.registry name crate
  | .traits => .traits index.registry.summaries
  | .sidebar crate kind => Question.sidebarOf index.sidebars crate kind
  | .stats expected =>
      .stats index.registry.stats (index.readiness expected) index.sidebars.size
        index.report.failed

end TraitIndex
