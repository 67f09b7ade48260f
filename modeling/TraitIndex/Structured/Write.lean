import TraitIndex.Implementor.Fragment

/-!
Fragments as structured data.

The data keeps of every record its trait, its type, its constraint and whether
it was made by the compiler.
-/

namespace TraitIndex.Structured

structure Descriptor where
  traitName : Value
  implementingType : Value
  constraintText : Value
  synthetic : Value
  deriving Repr, Inhabited

def descriptorOfElement : Element → Except ValueFault Descriptor
  | .record record =>
      .ok ⟨record.traitName, record.implementingType, record.constraintText,
        record.synthetic⟩
  | .other value => .error (.noMember value.kindName "trait_name")

def descriptorsOfEntry (entry : Entry) :
    Except ValueFault (List Descriptor) := do
  let elements ← entry.elements
  elements.mapM descriptorOfElement

def toData (fragment : Fragment) :
    Except ValueFault (Assoc String (List Descriptor)) := do
  let crates ← fragment.entries.crates "items"
  crates.mapM fun field => do
    let descriptors ← descriptorsOfEntry field.2
    return (field.1, descriptors)

namespace Descriptor

def toValue (descriptor : Descriptor) : Value :=
  .mapping [
    (.text "trait", descriptor.traitName),
    (.text "type", descriptor.implementingType),
    (.text "where", descriptor.constraintText),
    (.text "synthetic", descriptor.synthetic)]

end Descriptor

def documentOf (data : Assoc String (List Descriptor)) : Value :=
  .mapping (data.map fun field =>
    (.text field.1, .list (field.2.map (·.toValue))))

end TraitIndex.Structured
